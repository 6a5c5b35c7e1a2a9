import Conform.Files.FilePath
import Conform.Proofs.Text.Separated

/-!
# Paths of entries

The path of an entry is that of its directory with a name behind it. It ends in this name, and it is
longer than the path of the directory.

## Main results

- `FilePath.fileName?_join` — the path of an entry ends in its name
- `FilePath.size_lt_join` — it is longer than the path of its directory
-/

namespace Conform.FilePath

variable {p : FilePath} {name : String}

theorem ne_empty_of_isName (h : isName name = true) : name ≠ "" := by
  rintro rfl
  cases h

theorem ofPiece?_of_isName (h : isName name = true) : Part.ofPiece? name = some (.name name) := by
  simp only [isName, Bool.and_eq_true, decide_eq_true_eq] at h
  obtain ⟨⟨⟨hempty, hdot⟩, hdots⟩, -⟩ := h
  simp [Part.ofPiece?, hempty, hdot, hdots]

theorem pieces_of_isName (h : isName name = true) : pieces ⟨name⟩ = [name] := by
  simp only [isName, Bool.and_eq_true] at h
  exact Separated.splitText_of_not_mem (by simpa using h.2)

/-- The pieces of the path of an entry are those of some text in front, and the name. -/
theorem pieces_join (h : isName name = true) :
    ∃ outer, (p.join name).pieces = outer ++ [name] := by
  rw [join]
  split
  · next hend =>
    rcases hend with hempty | hslash
    · exact ⟨[], by rw [hempty, String.empty_append, pieces_of_isName h, List.nil_append]⟩
    · obtain ⟨front, hfront⟩ := List.getLast?_eq_some_iff.mp hslash
      have htext : p.text = String.ofList front ++ String.singleton '/' := by
        rw [← String.toList_inj]
        simp [hfront]
      refine ⟨Separated.splitText '/' (String.ofList front), ?_⟩
      rw [pieces, htext, Separated.splitText_append, ← pieces_of_isName h]
      rfl
  · refine ⟨p.pieces, ?_⟩
    rw [pieces, ← pieces_of_isName h]
    exact Separated.splitText_append p.text name

/-- A path whose last piece is a name ends in this name. -/
theorem fileName?_of_pieces {outer : List String} (h : isName name = true)
    (hpieces : p.pieces = outer ++ [name]) : p.fileName? = some name := by
  have hpiece := ofPiece?_of_isName h
  suffices hlast : p.parts.getLast? = some (.name name) by rw [fileName?, hlast]
  cases outer with
  | nil =>
    have hne := ne_empty_of_isName h
    have hdot : name ≠ "." := by
      rintro rfl
      cases h
    rw [parts, hpieces]
    simp [hne, hdot, hpiece]
  | cons first outer =>
    rw [parts, hpieces]
    simp only [List.cons_append, List.filterMap_append, List.filterMap_cons, hpiece,
      List.filterMap_nil]
    split
    · exact List.getLast?_concat (l := Part.root :: _)
    · split
      · exact List.getLast?_concat (l := Part.here :: _)
      · rw [← List.append_assoc]
        exact List.getLast?_concat

/-- The path of an entry ends in its name. -/
theorem fileName?_join (h : isName name = true) : (p.join name).fileName? = some name := by
  obtain ⟨outer, hpieces⟩ := pieces_join (p := p) h
  exact fileName?_of_pieces h hpieces

/-- A name alone is a path that ends in it. -/
theorem fileName?_of_isName (h : isName name = true) : fileName? ⟨name⟩ = some name :=
  fileName?_of_pieces h ((pieces_of_isName h).trans (List.nil_append _).symm)

/-- A path that ends in a name does not lead to where it starts. -/
theorem parts_ne_here (h : p.fileName? = some name) : p.parts ≠ [.here] := by
  intro hparts
  rw [fileName?, hparts] at h
  cases h

theorem size_pos (h : isName name = true) : 0 < name.utf8ByteSize := by
  rw [Nat.pos_iff_ne_zero, Ne, String.utf8ByteSize_eq_zero_iff]
  exact ne_empty_of_isName h

/-- The path of an entry is longer than that of its directory. -/
theorem size_lt_join (h : isName name = true) :
    p.text.utf8ByteSize < (p.join name).text.utf8ByteSize := by
  have hname := size_pos h
  rw [join]
  split
  · simp only [String.utf8ByteSize_append]
    omega
  · simp only [String.utf8ByteSize_append]
    omega

end Conform.FilePath
