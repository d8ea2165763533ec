import LivePages.Template.Builtin.Functions
import LivePages.Template.Builtin.Lists
import LivePages.Template.Builtin.Numbers
import LivePages.Template.Builtin.Tests
import LivePages.Template.Builtin.Texts

/-!
The library that every engine starts with. Not in it are `now`, `get_random` and `get_env`, whose
results come from the clock, from chance and from the environment and are no function of a template
and its data, nor the filter `date`, which needs the calendar, time zones and a language of formats.
A template that calls one of them fails here with the fault of an unknown name.
-/

namespace LivePages.Template

/-- All built-in filters, functions and tests but the four named above. -/
def Library.standard : Library where
  filter? := named? (Builtin.textFilters ++ Builtin.listFilters ++ Builtin.numberFilters)
  function? := named? Builtin.functions
  test? := named? Builtin.tests

end LivePages.Template
