import Conform.Log.Basic
import Conform.RenderOptions.Inspection
import Conform.RenderOptions.Validation

/-!
# Remarks about documents

What is remarked upon while a document of render options is checked: keys that are no option, how
much of the defaults was overridden, reports that were written, and the options that were accepted.
-/

namespace Conform

/-- The remark about a report that was written, if the event is one. -/
def Event.remark? : Event → Option Log.Record
  | .wrongType r => some (remark "invalid type" r)
  | .absent r => some (remark "missing property" r)
  | _ => none
where
  /-- The remark about a report. -/
  remark (message : String) (r : Report) : Log.Record :=
    ⟨.trace, "shape_guard::check", message,
      [("path", .text r.path.render), ("expected", .text r.expected)]⟩

/-- The remarks about an evaluation, in order. -/
def Eval.remarks {ε α : Type} (x : Eval ε α) : List Log.Record := x.events.filterMap Event.remark?

namespace RenderOptions

/-- The remarks about laying a document over the defaults. -/
def mergeRemarks : Value → List Log.Record
  | .object overrides =>
    (unknownKeys overrides).map
      (fun key => ⟨.warn, "shape_guard::options", "ignoring unknown render option",
        [("key", .text (Path.root.child key).render)]⟩) ++
    [⟨.debug, "shape_guard::options", "merged render options over defaults",
      [("overridden", .count overrides.size)]⟩]
  | _ => []

/-- The remark about options that were accepted for a file. -/
def acceptedRemark (file : String) (o : RenderOptions) : Log.Record :=
  ⟨.debug, "shape_guard::cli", "render options accepted",
    [("file", .text file), ("options", .text o.inspection.compact)]⟩

end RenderOptions

end Conform
