import BundleHost.Proofs.Http.Headers
import BundleHost.Security.Render

/-! The headers of a response after those of a configuration were added. The names of these headers
are different ones. What the response had stays as it was, and after it comes what it had not, in
the order of the configuration. So each header of the configuration is there exactly once, if the
response had none of it or had it with the same value. -/

namespace BundleHost.Security

variable {rendered : List (Text × Text)} {h : Headers} {field : Text × Text} {name other : Text}

/-- No name occurs twice among the headers. -/
structure AreDistinct (rendered : List (Text × Text)) : Prop where
  stable : ∀ field ∈ rendered, Headers.IsStable field.1
  apart : rendered.Pairwise fun a b => Headers.Apart a.1 b.1 ∧ Headers.Apart b.1 a.1

/-- Each of the headers is not there yet, or has the value that it would be given. -/
def Admits (h : Headers) (rendered : List (Text × Text)) : Prop :=
  ∀ field ∈ rendered, h.values field.1 = [] ∨ h.values field.1 = [field.2]

theorem values_secure_of_apart (ha : ∀ field ∈ rendered, Headers.Apart field.1 other)
    (h : Headers) : (secure rendered h).values other = h.values other := by
  induction rendered generalizing h with
  | nil => rfl
  | cons first rest ih =>
    obtain ⟨hfirst, hrest⟩ := List.forall_mem_cons.mp ha
    show (secure rest (h.setNew first.1 first.2)).values other = _
    rw [ih hrest, Headers.values_setNew hfirst]

/-! ### What is added -/

/-- The headers that a response gets: those whose names it has not. -/
def added (rendered : List (Text × Text)) (h : Headers) : Headers :=
  .ofList (rendered.filter fun field => !h.contains field.1)

theorem mem_added {other : Text × Text} : other ∈ added rendered h ↔
    ∃ field ∈ rendered, h.contains field.1 = false ∧ (Text.lower field.1, field.2) = other := by
  simp [added, Headers.ofList, and_assoc]

theorem added_concat (ha : ∀ field ∈ rendered, Headers.Apart name field.1) (value : Text) :
    added rendered (h ++ [(Text.lower name, value)]) = added rendered h := by
  have hsame : ∀ field ∈ rendered,
      Headers.contains (h ++ [(Text.lower name, value)]) field.1 = h.contains field.1 := by
    intro field hf
    rw [Headers.contains_append]
    simp [Headers.contains, (ha field hf).2]
  rw [added, added, List.filter_congr fun field hf => by rw [hsame field hf]]

/-- Induction on the headers, which are added one after another. -/
theorem secure_eq_append (hd : AreDistinct rendered) (h : Headers) :
    secure rendered h = h ++ added rendered h := by
  induction rendered generalizing h with
  | nil => exact (List.append_nil h).symm
  | cons first rest ih =>
    obtain ⟨-, hstables⟩ := List.forall_mem_cons.mp hd.stable
    obtain ⟨hapart, haparts⟩ := List.pairwise_cons.mp hd.apart
    show secure rest (h.setNew first.1 first.2) = _
    rw [ih ⟨hstables, haparts⟩, Headers.setNew]
    cases hc : h.contains first.1 with
    | true => rw [if_pos rfl, added, added, List.filter_cons_of_neg (by simp [hc])]
    | false =>
      have hmore : added (first :: rest) h = (Text.lower first.1, first.2) :: added rest h := by
        rw [added, List.filter_cons_of_pos (by simp [hc])]
        rfl
      rw [if_neg (by simp), added_concat fun field hf => (hapart field hf).1, hmore,
        List.append_assoc, List.singleton_append]

/-! ### Values -/

theorem values_ofList (hd : AreDistinct rendered) (hf : field ∈ rendered) :
    (Headers.ofList rendered).values field.1 = [field.2] := by
  induction rendered with
  | nil => cases hf
  | cons first rest ih =>
    obtain ⟨hstable, hstables⟩ := List.forall_mem_cons.mp hd.stable
    obtain ⟨hapart, haparts⟩ := List.pairwise_cons.mp hd.apart
    show Headers.values ((Text.lower first.1, first.2) :: Headers.ofList rest) field.1 = _
    rcases List.mem_cons.mp hf with rfl | hm
    · have hnone : (Headers.ofList rest).values field.1 = [] := by
        refine Headers.values_eq_nil fun other ho => ?_
        obtain ⟨b, hb, rfl⟩ := List.mem_map.mp ho
        exact (hapart b hb).2.2
      rw [Headers.values_cons_self hstable, hnone]
    · rw [Headers.values_cons, (hapart field hm).1.2]
      exact ih ⟨hstables, haparts⟩ hm

theorem values_secure_of_contains (hd : AreDistinct rendered) (hc : h.contains name = true) :
    (secure rendered h).values name = h.values name := by
  have hnone : (added rendered h).values name = [] := by
    refine Headers.values_eq_nil fun other hm => ?_
    obtain ⟨field, hf, hn, rfl⟩ := mem_added.mp hm
    rw [(hd.stable field hf).sameName_lower, Bool.eq_false_iff]
    intro hsame
    rw [Headers.contains_congr hsame, hc] at hn
    cases hn
  rw [secure_eq_append hd, Headers.values_append, hnone, List.append_nil]

theorem values_secure_of_missing (hd : AreDistinct rendered) (hf : field ∈ rendered)
    (hc : h.contains field.1 = false) : (secure rendered h).values field.1 = [field.2] := by
  have hm : field ∈ rendered.filter fun field => !h.contains field.1 :=
    List.mem_filter.mpr ⟨hf, by simp [hc]⟩
  have hd' : AreDistinct (rendered.filter fun field => !h.contains field.1) :=
    ⟨fun b hb => hd.stable b (List.mem_filter.mp hb).1, hd.apart.filter _⟩
  rw [secure_eq_append hd, Headers.values_append, Headers.values_of_not_contains hc,
    List.nil_append]
  exact values_ofList hd' hm

theorem values_secure (hd : AreDistinct rendered) (ha : Admits h rendered)
    (hf : field ∈ rendered) : (secure rendered h).values field.1 = [field.2] := by
  cases hc : h.contains field.1 with
  | false => exact values_secure_of_missing hd hf hc
  | true =>
    rw [values_secure_of_contains hd hc]
    refine (ha field hf).resolve_left fun hnone => ?_
    rw [Headers.contains_eq_isEmpty_values, hnone] at hc
    cases hc

/-! ### Headers of configurations -/

/-- The names of all headers that a configuration can stand for, in their order. -/
def headerNames : List Text := [
  "Strict-Transport-Security", "X-Content-Type-Options", "X-Frame-Options", "X-XSS-Protection",
  "Content-Security-Policy-Report-Only", "Content-Security-Policy", "Referrer-Policy",
  "Permissions-Policy"]

theorem eq_of_mem_headerIf {condition : Bool} {name value : Text}
    (hm : field ∈ headerIf condition name value) : field = (name, value) := by
  rw [headerIf] at hm
  split at hm
  · exact List.mem_singleton.mp hm
  · cases hm

theorem names_headerIf (condition : Bool) (name value : Text) :
    List.Sublist ((headerIf condition name value).map Prod.fst) [name] := by
  rw [headerIf]
  split
  · exact List.Sublist.refl _
  · exact List.nil_sublist _

theorem names_headersWith (c : Config) (transport : Text) :
    List.Sublist ((c.headersWith transport).map Prod.fst) headerNames := by
  have hcontent : List.Sublist [c.content.headerName]
      ["Content-Security-Policy-Report-Only", "Content-Security-Policy"] := by
    rw [List.singleton_sublist, ContentSection.headerName]
    split <;> simp
  simp only [Config.headersWith, List.map_append]
  exact ((((((names_headerIf _ _ _).append (names_headerIf _ _ _)).append
    (names_headerIf _ _ _)).append (names_headerIf _ _ _)).append
    ((names_headerIf _ _ _).trans hcontent)).append (names_headerIf _ _ _)).append
    (names_headerIf _ _ _)

theorem Config.headers_of_isShort {c : Config} (he : c.enabled = true)
    (hs : c.transport.enabled = true → IsShort c.transport.maxAge) :
    c.headers = .ok (c.headersWith (c.transport.valueWith (Text.ofNat c.transport.maxAge))) := by
  rw [headers, he]
  cases ht : c.transport.enabled with
  | false =>
    -- the value of a header that is not sent does not matter
    have hnone : ∀ transport, c.headersWith transport = c.headersWith [] := by
      intro transport
      rw [headersWith, headersWith, ht]
      rfl
    rw [hnone (c.transport.valueWith _)]
    rfl
  | true =>
    rw [TransportSection.value, writtenNat_of_isShort (hs ht)]
    rfl

theorem Config.headers_of_not_isShort {c : Config} (he : c.enabled = true)
    (ht : c.transport.enabled = true) (hs : ¬ IsShort c.transport.maxAge) :
    c.headers = .error (overlongFailure []) := by
  rw [headers, he, ht, TransportSection.value, writtenNat_of_not_isShort hs]
  rfl

/-- A configuration has headers unless it is to send an age that cannot be written. -/
theorem exists_headers_iff {c : Config} : (∃ rendered, c.headers = .ok rendered) ↔
    (c.enabled = true → c.transport.enabled = true → IsShort c.transport.maxAge) := by
  constructor
  · rintro ⟨rendered, hr⟩ he ht
    refine Classical.byContradiction fun hs => ?_
    rw [Config.headers_of_not_isShort he ht hs] at hr
    cases hr
  · intro h
    cases he : c.enabled with
    | false =>
      rw [Config.headers, he]
      exact ⟨[], rfl⟩
    | true => exact ⟨_, Config.headers_of_isShort he (h he)⟩

/-- What a configuration stands for is nothing, or the headers of its sections. -/
theorem headers_cases {c : Config} (h : c.headers = .ok rendered) :
    rendered = [] ∨ ∃ transport, rendered = c.headersWith transport := by
  rw [Config.headers] at h
  split at h
  · exact .inl (Except.ok.inj h).symm
  · split at h
    · exact .inr ⟨[], (Except.ok.inj h).symm⟩
    · obtain ⟨transport, -, hh⟩ := of_map_eq_ok h
      exact .inr ⟨transport, hh.symm⟩

theorem names_of_headers {c : Config} (h : c.headers = .ok rendered) :
    List.Sublist (rendered.map Prod.fst) headerNames := by
  rcases headers_cases h with rfl | ⟨transport, rfl⟩
  · exact List.nil_sublist _
  · exact names_headersWith c transport

theorem areDistinct_of_names (h : List.Sublist (rendered.map Prod.fst) headerNames) :
    AreDistinct rendered where
  stable field hf := by
    have hall : ∀ name ∈ headerNames, Headers.IsStable name := by decide +kernel
    exact hall field.1 (h.subset (List.mem_map_of_mem hf))
  apart := by
    have hall : headerNames.Pairwise fun a b => Headers.Apart a b ∧ Headers.Apart b a := by
      decide +kernel
    exact List.pairwise_map.mp (hall.sublist h)

/-- The header about types has the same value in all configurations. -/
theorem eq_nosniff_of_mem_headersWith {c : Config} {transport : Text}
    (hf : field ∈ c.headersWith transport) (hn : field.1 = "X-Content-Type-Options") :
    field.2 = "nosniff" := by
  have hother {condition : Bool} {name value : Text} (hne : name ≠ "X-Content-Type-Options") :
      field ∉ headerIf condition name value := by
    intro hm
    rw [eq_of_mem_headerIf hm] at hn
    exact hne hn
  have hcontent : c.content.headerName ≠ "X-Content-Type-Options" := by
    rw [ContentSection.headerName]
    split <;> decide
  simp only [Config.headersWith, List.mem_append] at hf
  rcases hf with (((((hf | hf) | hf) | hf) | hf) | hf) | hf
  · exact absurd hf (hother (by decide))
  · rw [eq_of_mem_headerIf hf]
  · exact absurd hf (hother (by decide))
  · exact absurd hf (hother (by decide))
  · exact absurd hf (hother hcontent)
  · exact absurd hf (hother (by decide))
  · exact absurd hf (hother (by decide))

theorem eq_nosniff_of_headers {c : Config} (h : c.headers = .ok rendered) (hf : field ∈ rendered)
    (hn : field.1 = "X-Content-Type-Options") : field.2 = "nosniff" := by
  rcases headers_cases h with rfl | ⟨transport, rfl⟩
  · cases hf
  · exact eq_nosniff_of_mem_headersWith hf hn

end BundleHost.Security
