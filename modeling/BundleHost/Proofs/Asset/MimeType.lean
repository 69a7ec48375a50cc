import BundleHost.Asset.MimeType
import BundleHost.Http.Message
import BundleHost.Proofs.Text.Case
import BundleHost.Proofs.Text.Segments

/-! The media type of a file does not depend on the directories above it: an extension that a slash
is part of is none of the table. All types are sent as they stand there, since those of texts name
their character set. -/

namespace BundleHost.MimeType

theorem slash_mem_lower {t : Text} (h : '/' ∈ t) : '/' ∈ Text.lower t := by
  obtain ⟨form, hf, hsub⟩ := Text.exists_smallForm h
  cases hf with
  | sigma _ _ he => exact absurd he (by decide)
  | other => exact hsub (by decide)

theorem lookup_of_mem {t : Text} {c : Char} (h : c ∈ t) (hk : ∀ entry ∈ table, c ∉ entry.1) :
    table.lookup t = none := by
  rw [List.lookup_eq_none_iff]
  intro entry he
  rw [bne_iff_ne]
  rintro rfl
  exact hk entry he h

theorem mem_table_of_lookup {extension type : Text} (h : table.lookup extension = some type) :
    (extension, type) ∈ table := by
  obtain ⟨before, after, ht, -⟩ := List.lookup_eq_some_iff.mp h
  simp [ht]

theorem ofExtension_of_slash {extension : Text} (h : '/' ∈ extension) :
    ofExtension extension = unknown := by
  rw [ofExtension, lookup_of_mem (slash_mem_lower h) (by decide)]
  rfl

/-- What stands before a slash does not matter to the type. -/
theorem ofPath_append_slash (above name : Text) : ofPath (above ++ '/' :: name) = ofPath name := by
  by_cases hd : '.' ∈ name
  · cases hn : Text.afterLast? '.' name with
    | none => exact absurd hd (Text.afterLast?_eq_none.mp hn)
    | some extension =>
      have ha : Text.afterLast? '.' (above ++ '/' :: name) = some extension := by
        rw [← List.singleton_append, ← List.append_assoc]
        exact Text.afterLast?_append hn
      rw [ofPath, ofPath, ha, hn]
  · have hs : '.' ∉ '/' :: name := by simpa using hd
    rw [ofPath_of_no_dot hd, ofPath, Text.afterLast?_append_of_not_mem above hs]
    cases Text.afterLast? '.' above with
    | none => rfl
    | some extension => exact ofExtension_of_slash (by simp)

theorem mem_of_ofPath (path : Text) : ofPath path ∈ unknown :: table.map Prod.snd := by
  rw [ofPath]
  split
  · next extension _ =>
    rw [ofExtension]
    cases hl : table.lookup (Text.lower extension) with
    | none => simp
    | some t =>
      exact List.mem_cons_of_mem _ (List.mem_map.mpr ⟨_, mem_table_of_lookup hl, rfl⟩)
  · simp

/-- Only one extension, in any mixture of letter cases, stands for HTML. -/
theorem ofPath_eq_html {path : Text} :
    ofPath path = html ↔
      ∃ extension, Text.afterLast? '.' path = some extension ∧ Text.lower extension = "html" := by
  have hrow : ∀ entry ∈ table, entry.2 = html → entry.1 = "html" := by decide
  have hnone : unknown ≠ html := by decide
  rw [ofPath]
  cases Text.afterLast? '.' path with
  | none => simp [hnone]
  | some extension =>
    simp only [Option.some.injEq, exists_eq_left', ofExtension]
    constructor
    · intro h
      cases hl : table.lookup (Text.lower extension) with
      | none =>
        rw [hl] at h
        exact absurd h hnone
      | some t =>
        rw [hl] at h
        exact hrow _ (mem_table_of_lookup hl) h
    · intro h
      rw [h]
      rfl

/-- A type of the table is sent as it is. -/
theorem withCharset_ofPath (path : Text) : Response.withCharset (ofPath path) = ofPath path := by
  have h : ∀ t ∈ unknown :: table.map Prod.snd, Response.withCharset t = t := by decide +kernel
  exact h _ (mem_of_ofPath path)

theorem withCharset_html : Response.withCharset html = html := by decide +kernel

end BundleHost.MimeType
