import LivePages.Notice
import LivePages.Proofs.Text.Truncate

/-! The line of a notice. Behind its label stands as much of the message as the width leaves, in
whole characters, so that only a label that is too long by itself makes a line longer than that. -/

namespace LivePages.Notice

open Text (IsLongest truncate?)
open Text.Utf8 (encode decode?)

variable {label message : String} {width : Nat}

theorem utf8ByteSize_bracketed (label : String) :
    (bracketed label ++ " ").utf8ByteSize = label.utf8ByteSize + labelRoom := by
  have hmarks : "[".utf8ByteSize + "]".utf8ByteSize + " ".utf8ByteSize = labelRoom := by decide
  simp only [bracketed, String.utf8ByteSize_append]
  omega

theorem isLongest_cut (label message : String) (width : Nat) :
    IsLongest (width - (label.utf8ByteSize + labelRoom)) message (cut label message width) :=
  Text.isLongest_truncate _ _

/-- A line has no more octets than the width, or else than its label. -/
theorem utf8ByteSize_plainText_le (label message : String) (width : Nat) :
    (plainText label message width).utf8ByteSize ≤ max width (label.utf8ByteSize + labelRoom) := by
  have hcut := (isLongest_cut label message width).size_le
  rw [plainText, String.utf8ByteSize_append, utf8ByteSize_bracketed]
  omega

/-- A line shows all of its message if there is room for both. -/
theorem plainText_eq_iff (h : label.utf8ByteSize + labelRoom ≤ width) :
    plainText label message width = bracketed label ++ " " ++ message ↔
      (bracketed label ++ " " ++ message).utf8ByteSize ≤ width := by
  rw [plainText, String.append_right_inj, (isLongest_cut label message width).eq_self_iff,
    String.utf8ByteSize_append, utf8ByteSize_bracketed]
  omega

/-- The octets of the label with those of the message up to the cut are those of the line. -/
theorem decode?_plainText (label message : String) (width : Nat) :
    decode? (encode (bracketed label ++ " ").toList ++
        (encode message.toList).take (cut label message width).utf8ByteSize) =
      some (plainText label message width).toList := by
  have hcut := Text.Utf8.decode?_eq_some_iff.1 (isLongest_cut label message width).decode?_take
  rw [← hcut, ← Text.Utf8.encode_append, ← String.toList_append, Text.Utf8.decode?_encode]
  rfl

/-- What a line of some width makes of a label and a message. -/
structure FitsLine (width : Nat) (label message line : String) : Prop where
  size_le : line.utf8ByteSize ≤ width
  /-- Its octets, those of the label and the first ones of the message, are well-formed. -/
  wellFormed : ∃ k, decode? (encode (bracketed label ++ " ").toList ++
    (encode message.toList).take k) = some line.toList
  whole_iff : line = bracketed label ++ " " ++ message ↔
    (bracketed label ++ " " ++ message).utf8ByteSize ≤ width

theorem fitsLine_plainText (h : label.utf8ByteSize + labelRoom ≤ width) :
    FitsLine width label message (plainText label message width) where
  size_le := by
    have hle := utf8ByteSize_plainText_le label message width
    rwa [Nat.max_eq_left h] at hle
  wellFormed := ⟨_, decode?_plainText label message width⟩
  whole_iff := plainText_eq_iff h

/-- A message is cut at a character's end to the longest beginning within its limit, so a line with
room for its label keeps to the width. -/
theorem notice_fits_line (message : String) :
    (∀ limit, ∃ t, truncate? limit message = some t ∧ IsLongest limit message t ∧
      (t = message ↔ message.utf8ByteSize ≤ limit) ∧
      (limit < message.utf8ByteSize → limit < t.utf8ByteSize + 4)) ∧
    ∀ (width : Nat) (label : String), label.utf8ByteSize + 3 ≤ width →
      written false label message width =
        String.ofList [escape, '[', 'K'] ++ plainText label message width ++ "\n" ∧
      FitsLine width label message (plainText label message width) := by
  refine ⟨fun limit => ?_, fun width label h => ⟨rfl, fitsLine_plainText h⟩⟩
  have hlongest := Text.isLongest_truncate limit message
  exact ⟨_, Text.truncate?_eq_some_iff.2 hlongest, hlongest, hlongest.eq_self_iff,
    hlongest.lt_add_four⟩

/-- The character that does not fit takes four octets, so three of the width stay empty. -/
theorem notice_fits_line_wide_character :
    (4 < "a😀".utf8ByteSize ∧ truncate? 4 "a😀" = some "a" ∧ 4 < "a".utf8ByteSize + 4) ∧
    "watch".utf8ByteSize + 3 ≤ 12 ∧ FitsLine 12 "watch" "a😀" "[watch] a" := by
  obtain ⟨hcut, hline⟩ := notice_fits_line "a😀"
  obtain ⟨t, ht, -, -, hnear⟩ := hcut 4
  have hroom : 4 < "a😀".utf8ByteSize := by decide
  have hlabel : "watch".utf8ByteSize + 3 ≤ 12 := by decide
  have hta : truncate? 4 "a😀" = some "a" := by decide
  obtain rfl : t = "a" := Option.some_inj.1 (ht.symm.trans hta)
  have hplain : plainText "watch" "a😀" 12 = "[watch] a" := by decide
  exact ⟨⟨hroom, hta, hnear hroom⟩, hlabel, hplain ▸ (hline 12 "watch" hlabel).2⟩

end LivePages.Notice
