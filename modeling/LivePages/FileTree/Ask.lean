/-!
Programs that ask a disk. A program is a value: it is done, or it asks one question and goes on with
the answer. The same program runs over a tree of files, over a disk that changes between two
questions, or over the real one.
-/

namespace LivePages

/-- Why the disk refuses. -/
inductive DiskFault
  | missing
  | exists
  | notAFolder
  | aFolder
  | nameTooLong
  | zeroInPath
  | notText
  deriving DecidableEq, Repr

def DiskFault.message : DiskFault → String
  | .missing => "No such file or directory (os error 2)"
  | .exists => "File exists (os error 17)"
  | .notAFolder => "Not a directory (os error 20)"
  | .aFolder => "Is a directory (os error 21)"
  | .nameTooLong => "File name too long (os error 36)"
  | .zeroInPath => "file name contained an unexpected NUL byte"
  | .notText => "stream did not contain valid UTF-8"

/-- An entry of a folder: its name, if that is text, and whether it is a regular file. -/
structure Listed where
  name : Option String
  isFile : Bool
  deriving DecidableEq, Repr

/-- `canonical` is about the path from the top without detours, `here` about the working folder. -/
inductive Question
  | text (path : String)
  | entries (path : String)
  | isFolder (path : String)
  | exists (path : String)
  | canonical (path : String)
  | here
  deriving DecidableEq, Repr

abbrev Question.Answer : Question → Type
  | .text _ => Except DiskFault String
  | .entries _ => Except DiskFault (List Listed)
  | .isFolder _ => Bool
  | .exists _ => Bool
  | .canonical _ => Except DiskFault String
  | .here => String

/-- A disk as a program sees it. -/
abbrev Disk := (q : Question) → q.Answer

inductive Ask (α : Type)
  | done (a : α)
  | ask (q : Question) (next : q.Answer → Ask α)

namespace Ask

variable {α β : Type}

def bind (p : Ask α) (f : α → Ask β) : Ask β :=
  match p with
  | .done a => f a
  | .ask q next => .ask q fun a => (next a).bind f

instance : Monad Ask where
  pure := .done
  bind := bind

/-- The result when every question is answered by the same disk. -/
def run (d : Disk) : Ask α → α
  | .done a => a
  | .ask q next => (next (d q)).run d

@[simp] theorem run_pure (d : Disk) (a : α) : (pure a : Ask α).run d = a := rfl

@[simp] theorem run_bind (d : Disk) (p : Ask α) (f : α → Ask β) :
    (p >>= f).run d = (f (p.run d)).run d := by
  induction p with
  | done a => rfl
  | ask q next ih => exact ih (d q)

def text (path : String) : Ask (Except DiskFault String) :=
  .ask (.text path) .done

def entries (path : String) : Ask (Except DiskFault (List Listed)) :=
  .ask (.entries path) .done

def isFolder (path : String) : Ask Bool :=
  .ask (.isFolder path) .done

def «exists» (path : String) : Ask Bool :=
  .ask (.exists path) .done

def canonical (path : String) : Ask (Except DiskFault String) :=
  .ask (.canonical path) .done

def here : Ask String :=
  .ask .here .done

end Ask

end LivePages
