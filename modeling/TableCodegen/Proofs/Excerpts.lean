import TableCodegen.Document.Excerpt
import TableCodegen.Proofs.LineTable

/-!
# The excerpt of a part of a line

A span that is the place of a part of one line has an excerpt, and it shows that line with the part
marked.
-/

namespace TableCodegen
namespace Document

open Text

/-- **A part of a line has its excerpt.** The line is the one with so many line feeds in front of
it, and the columns are counted in the characters in front of the part and in it. -/
theorem excerpt_part {path t before content after front part behind : Text} {span : Span}
    (h : LineAt t before content after) (hcontent : content = front ++ part ++ behind)
    (hstart : span.start = byteSize before + byteSize front)
    (hstop : span.stop = span.start + byteSize part) :
    excerpt ⟨path, t⟩ span =
      .ok (showExcerpt path (lineFeeds before + 1) (front.length + 1) (max part.length 1)
        (trimEnd (· == '\r') content)) := by
  have hsize : byteSize content = byteSize front + byteSize part + byteSize behind := by
    rw [hcontent, byteSize_append, byteSize_append]
  have hfind : findLine (lineTable t) span.start = .ok (lineFeeds before) :=
    findLine_lineTable h (by omega) (by omega)
  have hline : slice? (byteSize before) (byteSize before + byteSize content) t = some content :=
    slice?_of_eq_append _ _ h.eq rfl rfl
  rw [excerpt, if_neg (by omega), hfind]
  simp only [lineTable_getElem? h]
  rw [if_neg (by omega), h.slice?_front hcontent hstart, h.slice?_part hcontent hstart hstop,
    hline]
  rfl

end Document
end TableCodegen
