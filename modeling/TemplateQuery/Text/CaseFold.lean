import TemplateQuery.Text.CaseTable
import TemplateQuery.Text.CodeRanges

/-! Sets of characters without regard to case. -/

set_option autoImplicit false

namespace TemplateQuery.Text

/-- Code points with the one that stands for all that differ from it only in case. -/
def foldPairs : List (Nat × Nat) := foldRuns.flatMap CaseRun.pairs

def asciiFoldPairs : List (Nat × Nat) := foldPairs.filter (·.1 < 0x80)

namespace CaseRun

def codes (r : CaseRun) : CodeRanges :=
  if r.step = 1 then [⟨r.first, r.last⟩] else r.pairs.map fun (n, _) => ⟨n, n⟩

end CaseRun

namespace CodeRanges

def closeCase (pairs : List (Nat × Nat)) (rs : CodeRanges) : CodeRanges :=
  let met := pairs.filter fun (n, image) => rs.holds n || rs.holds image
  let images := normal (met.map fun (_, image) => ⟨image, image⟩)
  let others := (pairs.filter fun (_, image) => images.holds image).map fun (n, _) => ⟨n, n⟩
  normal (rs ++ images ++ others)

end CodeRanges

end TemplateQuery.Text
