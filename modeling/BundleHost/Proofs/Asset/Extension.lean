import BundleHost.Proofs.Asset.Key
import BundleHost.Proofs.Asset.MimeType

/-! Which part of a path its media type comes from. It is the text after the last dot of the last
segment, and it counts only if it is an extension of the table, whatever the case of the letters A
to Z. A dot above the last segment is not looked at. The small form of an extension is looked up,
which can be one of letters A to Z even if the extension has a letter outside ASCII, but then it has
a `k`, and no extension of the table does. -/

namespace BundleHost.MimeType

variable {path extension : Text}

/-! ### Extensions in the table -/

theorem lookup_of_not_ascii {t : Text} {c : Char} (h : c ∈ t) (hc : 128 ≤ c.toNat ∨ c = 'k') :
    table.lookup t = none := by
  have hk : ∀ entry ∈ table, (entry.1.all fun d => d.toNat < 128 && d != 'k') = true := by decide
  refine lookup_of_mem h fun entry he hm => ?_
  have hd := List.all_eq_true.mp (hk entry he) c hm
  rw [Bool.and_eq_true, decide_eq_true_eq, bne_iff_ne] at hd
  rcases hc with hc | hc
  · omega
  · exact hd.2 hc

/-- For the extensions of the table it is enough to make the letters A to Z small. -/
theorem lookup_lower (extension : Text) :
    table.lookup (Text.lower extension) = table.lookup (Text.lowerAscii extension) := by
  by_cases h : ∃ c ∈ extension, 128 ≤ c.toNat
  · obtain ⟨c, hc, hn⟩ := h
    obtain ⟨d, hd, hout⟩ := Text.exists_mem_lower hc hn
    rw [lookup_of_not_ascii hd hout, lookup_of_not_ascii (Text.mem_lowerAscii hc hn) (.inl hn)]
  · have hall : ∀ c ∈ extension, c.toNat < 128 := fun c hc =>
      Nat.lt_of_not_le fun hn => h ⟨c, hc, hn⟩
    rw [Text.lower_eq_lowerAscii hall]

theorem lookup_lowerAscii : ∀ entry ∈ table,
    Text.lowerAscii entry.1 = entry.1 ∧ table.lookup (Text.lowerAscii entry.1) = some entry.2 := by
  decide

theorem ofExtension_eq (extension : Text) :
    ofExtension extension = (table.lookup (Text.lowerAscii extension)).getD unknown := by
  rw [ofExtension, lookup_lower]

/-- Whether the letters A to Z are small in a path does not matter. -/
theorem ofPath_lowerAscii (path : Text) : ofPath (Text.lowerAscii path) = ofPath path := by
  rw [ofPath, ofPath, Text.lowerAscii, Text.afterLast?_map fun _ => Text.toLower_eq_dot]
  cases Text.afterLast? '.' path with
  | none => rfl
  | some extension =>
    show ofExtension (Text.lowerAscii extension) = ofExtension extension
    rw [ofExtension_eq, Text.lowerAscii_lowerAscii, ofExtension_eq]

/-! ### Extensions of paths -/

/-- The last segment goes on with this text after its last dot. -/
def EndsIn (path extension : Text) : Prop :=
  ∃ stem, Key.finalSegment path = stem ++ '.' :: extension ∧ '.' ∉ extension

/-- The path ends in the extension in any mixture of letter cases. -/
def HasExtension (path extension : Text) : Prop :=
  ∃ written, EndsIn path written ∧ Text.lowerAscii written = Text.lowerAscii extension

theorem endsIn_iff : EndsIn path extension ↔
    Text.afterLast? '.' (Key.finalSegment path) = some extension :=
  Text.afterLast?_eq_some.symm

theorem ofPath_finalSegment (path : Text) : ofPath (Key.finalSegment path) = ofPath path := by
  rcases Key.finalSegment_cases path with ⟨he, -⟩ | ⟨above, he, -⟩
  · rw [he]
  · have ha := ofPath_append_slash above (Key.finalSegment path)
    rw [← he] at ha
    exact ha.symm

theorem ofPath_of_endsIn (h : EndsIn path extension) :
    ofPath path = (table.lookup (Text.lowerAscii extension)).getD unknown := by
  rw [← ofPath_finalSegment, ofPath, endsIn_iff.mp h]
  exact ofExtension_eq extension

theorem ofPath_of_hasExtension {entry : Text × Text} (he : entry ∈ table)
    (h : HasExtension path entry.1) : ofPath path = entry.2 := by
  obtain ⟨written, hw, hl⟩ := h
  rw [ofPath_of_endsIn hw, hl, (lookup_lowerAscii entry he).2]
  rfl

/-- To end in an extension of the table as it stands there is enough. -/
theorem ofPath_of_suffix {entry : Text × Text} (he : entry ∈ table)
    (h : '.' :: entry.1 <:+ path) : ofPath path = entry.2 := by
  have hdot : ∀ entry ∈ table, '.' ∉ entry.1 := by decide
  rw [ofPath, Text.afterLast?_of_suffix h (hdot entry he)]
  show ofExtension entry.1 = entry.2
  rw [ofExtension_eq, (lookup_lowerAscii entry he).2]
  rfl

/-- Only an extension of the table gives a type. -/
theorem exists_hasExtension (h : ofPath path ≠ unknown) :
    ∃ entry ∈ table, HasExtension path entry.1 := by
  cases hw : Text.afterLast? '.' (Key.finalSegment path) with
  | none =>
    rw [← ofPath_finalSegment] at h
    exact absurd (ofPath_of_no_dot (Text.afterLast?_eq_none.mp hw)) h
  | some written =>
    have hend := endsIn_iff.mpr hw
    rw [ofPath_of_endsIn hend] at h
    cases hl : table.lookup (Text.lowerAscii written) with
    | none =>
      rw [hl] at h
      exact absurd rfl h
    | some t =>
      have he := mem_table_of_lookup hl
      exact ⟨_, he, written, hend, (lookup_lowerAscii _ he).1.symm⟩

/-! ### The type of a path -/

/-- The type of a path comes from its extension alone, up to the case of the letters A to Z. -/
theorem ofPath_by_extension (path : Text) :
    ofPath path = ofPath (Key.finalSegment path) ∧
    (∀ other, Text.lowerAscii path = Text.lowerAscii other → ofPath path = ofPath other) ∧
    (ofPath path ≠ unknown ↔ ∃ entry ∈ table, HasExtension path entry.1) ∧
    (∀ entry ∈ table, HasExtension path entry.1 → ofPath path = entry.2) ∧
    ('.' ∉ Key.finalSegment path → ofPath path = unknown) ∧
    (∀ extension, EndsIn path extension → (∃ c ∈ extension, 128 ≤ c.toNat) →
      ofPath path = unknown) := by
  refine ⟨(ofPath_finalSegment path).symm, ?sameLetters, ⟨exists_hasExtension, ?known⟩,
    fun entry he => ofPath_of_hasExtension he, ?noDot, ?notAscii⟩
  case sameLetters =>
    intro other h
    rw [← ofPath_lowerAscii path, h, ofPath_lowerAscii]
  case known =>
    rintro ⟨entry, he, hx⟩
    have hne : ∀ entry ∈ table, entry.2 ≠ unknown := by decide
    rw [ofPath_of_hasExtension he hx]
    exact hne entry he
  case noDot =>
    intro h
    rw [← ofPath_finalSegment, ofPath_of_no_dot h]
  case notAscii =>
    rintro extension h ⟨c, hc, hn⟩
    rw [ofPath_of_endsIn h, lookup_of_not_ascii (Text.mem_lowerAscii hc hn) (.inl hn)]
    rfl

/-- A script in capitals is a script. A name with the sign of the kelvin for a `k` has no type, and
neither has one below a directory with a dot. -/
theorem ofPath_script :
    ofPath "v2.0/App.JS" = "application/javascript; charset=utf-8" ∧
      ofPath "v2.0/App.JS" = ofPath "V2.0/aPP.js" ∧ ofPath "notes.b\u212a" = unknown ∧
        ofPath "v2.js/app" = unknown := by
  obtain ⟨-, letters, -, known, -, -⟩ := ofPath_by_extension "v2.0/App.JS"
  obtain ⟨-, -, -, -, -, notAscii⟩ := ofPath_by_extension "notes.b\u212a"
  obtain ⟨-, -, -, -, noDot, -⟩ := ofPath_by_extension "v2.js/app"
  refine ⟨known ("js", "application/javascript; charset=utf-8") (by decide) ?_,
    letters "V2.0/aPP.js" (by decide), notAscii "b\u212a" ⟨"notes", by decide, by decide⟩ ?_,
    noDot (by decide)⟩
  · exact ⟨"JS", ⟨"App", by decide, by decide⟩, by decide⟩
  · exact ⟨'\u212a', by decide, by decide⟩

end BundleHost.MimeType
