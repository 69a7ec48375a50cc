import BundleHost.Proofs.Security.Rendering
import BundleHost.Proofs.Text.Trimming

/-! The headers of a configuration, section by section. In an enabled configuration without a
problem every section that is switched on has one header and no other section has any. Most values
are made of fixed words and a number, which has to be one that can be written. Three sections take a
text from the configuration: it is not empty then, but no more than that is asked of it. -/

namespace BundleHost.Text

variable {p : Char → Bool} {s : Text}

/-- Not all of the text is white space. -/
def IsVisible (t : Text) : Prop := ∃ c ∈ t, isBlank c = false

/-- The text stays on its line. -/
def IsUnbroken (t : Text) : Prop := ∀ c ∈ t, c ≠ '\r' ∧ c ≠ '\n'

-- only the characters of the text are tried, not all that there are
instance (t : Text) : Decidable t.IsVisible := List.decidableBEx (fun c => isBlank c = false) t

instance (t : Text) : Decidable t.IsUnbroken := List.decidableBAll (fun c => c ≠ '\r' ∧ c ≠ '\n') t

theorem IsUnbroken.append {t : Text} (ht : t.IsUnbroken) (hs : s.IsUnbroken) :
    (t ++ s).IsUnbroken := by
  intro c hc
  rcases List.mem_append.mp hc with h | h
  · exact ht c h
  · exact hs c h

theorem IsUnbroken.trimEnd (hs : s.IsUnbroken) : (trimEnd p s).IsUnbroken := by
  rw [trimEnd_eq_rdropWhile]
  exact fun c hc => hs c ((List.rdropWhile_prefix p s).subset hc)

theorem isUnbroken_ofNat (n : Nat) : (ofNat n).IsUnbroken := by
  intro c hc
  have hd : c.isDigit = true := Nat.isDigit_of_mem_toDigits (by decide) (by decide) hc
  constructor <;> rintro rfl <;> revert hd <;> decide

theorem IsVisible.trimEnd_ne_nil (hs : s.IsVisible) : Text.trimEnd isBlank s ≠ [] := by
  intro h
  obtain ⟨c, hc, hv⟩ := hs
  rw [trimEnd_eq_nil.mp h c hc] at hv
  cases hv

end BundleHost.Text

namespace BundleHost.Security

/-- The value says something, and ends where it is meant to. -/
structure IsUsable (value : Text) : Prop where
  visible : value.IsVisible
  unbroken : value.IsUnbroken

theorem isUsable_iff {value : Text} : IsUsable value ↔ value.IsVisible ∧ value.IsUnbroken :=
  ⟨fun h => ⟨h.visible, h.unbroken⟩, fun h => ⟨h.1, h.2⟩⟩

instance (value : Text) : Decidable (IsUsable value) := decidable_of_iff _ isUsable_iff.symm

theorem IsUsable.append {value rest : Text} (hv : IsUsable value) (hr : rest.IsUnbroken) :
    IsUsable (value ++ rest) where
  visible := hv.visible.imp fun _ h => ⟨List.mem_append_left _ h.1, h.2⟩
  unbroken := hv.unbroken.append hr

/-! ### Sections -/

inductive Section
  | transport
  | contentType
  | frame
  | scripts
  | content
  | referrer
  | permissions
deriving DecidableEq, Repr

namespace Section

def all : List Section :=
  [transport, contentType, frame, scripts, content, referrer, permissions]

def name : Section → Text
  | transport => "Strict-Transport-Security"
  | contentType => "X-Content-Type-Options"
  | frame => "X-Frame-Options"
  | scripts => "X-XSS-Protection"
  | content => "Content-Security-Policy"
  | referrer => "Referrer-Policy"
  | permissions => "Permissions-Policy"

/-- The names that the header of a section can have: where from a page loads its contents may also
be only reported. -/
def names (s : Section) : List Text :=
  if s = content then [s.name, "Content-Security-Policy-Report-Only"] else [s.name]

theorem mem_all (s : Section) : s ∈ all := by cases s <;> decide

theorem eq_of_mem_names {s s' : Section} {name : Text} (h : name ∈ s.names)
    (h' : name ∈ s'.names) : s = s' := by
  have hall : ∀ a ∈ all, ∀ b ∈ all, ∀ n ∈ a.names, n ∈ b.names → a = b := by decide +kernel
  exact hall s s.mem_all s' s'.mem_all name h h'

end Section

namespace Config

variable {c : Config} {s : Section}

def isOn (c : Config) : Section → Bool
  | .transport => c.transport.enabled
  | .contentType => c.contentTypeOptions
  | .frame => c.frame.enabled
  | .scripts => c.xssProtection
  | .content => c.content.enabled
  | .referrer => c.referrer.enabled
  | .permissions => c.permissions.enabled

def headerName (c : Config) (s : Section) : Text :=
  if s = .content then c.content.headerName else s.name

def headerValue (c : Config) : Section → Text
  | .transport => c.transport.valueWith (Text.ofNat c.transport.maxAge)
  | .contentType => "nosniff"
  | .frame => c.frame.value
  | .scripts => "1; mode=block"
  | .content => c.content.policy
  | .referrer => c.referrer.policy.label
  | .permissions => c.permissions.policy

/-- The text that a configuration gives for the header of a section; most sections take none. -/
def given? (c : Config) : Section → Option Text
  | .frame => if c.frame.policy = .allowFrom then some (c.frame.allowFrom.getD []) else none
  | .content => some c.content.policy
  | .permissions => some c.permissions.policy
  | _ => none

theorem headerName_mem_names (c : Config) (s : Section) : c.headerName s ∈ s.names := by
  rw [headerName, Section.names]
  split
  · next hs =>
    subst hs
    rw [ContentSection.headerName]
    split
    · exact List.mem_cons_of_mem _ (List.mem_singleton_self _)
    · exact List.mem_cons_self
  · exact List.mem_singleton_self _

/-! ### Configurations without a problem -/

theorem problem?_eq_none_iff : c.problem? = none ↔
    (c.transport.enabled = true → c.transport.maxAge ≠ 0) ∧
    (c.content.enabled = true → c.content.policy ≠ []) ∧
    (c.permissions.enabled = true → c.permissions.policy ≠ []) ∧
    (c.frame.enabled = true → c.frame.policy = .allowFrom → c.frame.allowFrom.getD [] ≠ []) := by
  simp [problem?, FrameSection.lacksOrigin, ite_eq_iff]

/-- The text given for a section that is switched on is not empty. -/
theorem given_ne_nil (hp : c.problem? = none) (hs : c.isOn s = true) {text : Text}
    (ht : c.given? s = some text) : text ≠ [] := by
  obtain ⟨-, hcontent, hpermissions, hframe⟩ := problem?_eq_none_iff.mp hp
  cases s with
  | content => exact Option.some.inj ht ▸ hcontent hs
  | permissions => exact Option.some.inj ht ▸ hpermissions hs
  | frame =>
    rw [given?] at ht
    split at ht
    · next hpolicy => exact Option.some.inj ht ▸ hframe hs hpolicy
    · cases ht
  | _ => cases ht

theorem headersWith_eq_flatMap (hp : c.problem? = none) :
    c.headersWith (c.headerValue .transport) = Section.all.flatMap fun s =>
      headerIf (c.isOn s) (c.headerName s) (c.headerValue s) := by
  obtain ⟨-, hcontent, hpermissions, -⟩ := problem?_eq_none_iff.mp hp
  -- The two policies are looked at once more before they are sent, which changes nothing here.
  have hc : (c.content.enabled && !c.content.policy.isEmpty) = c.isOn .content := by
    simpa [isOn] using hcontent
  have hq : (c.permissions.enabled && !c.permissions.policy.isEmpty) = c.isOn .permissions := by
    simpa [isOn] using hpermissions
  rw [headersWith, hc, hq]
  simp only [Section.all, List.flatMap_cons, List.flatMap_nil, List.append_nil, List.append_assoc]
  rfl

theorem mem_headersWith_iff (hp : c.problem? = none) {field : Text × Text} :
    field ∈ c.headersWith (c.headerValue .transport) ↔
      ∃ s, c.isOn s = true ∧ field = (c.headerName s, c.headerValue s) := by
  rw [headersWith_eq_flatMap hp, List.mem_flatMap]
  constructor
  · rintro ⟨s, -, hs⟩
    rw [headerIf] at hs
    split at hs
    · next hon => exact ⟨s, hon, List.mem_singleton.mp hs⟩
    · cases hs
  · rintro ⟨s, hon, rfl⟩
    refine ⟨s, s.mem_all, ?_⟩
    rw [headerIf, if_pos hon]
    exact List.mem_singleton_self _

theorem nodup_names_headersWith (c : Config) (transport : Text) :
    ((c.headersWith transport).map Prod.fst).Nodup := by
  have hall : headerNames.Nodup := by decide +kernel
  exact hall.sublist (names_headersWith c transport)

/-! ### Values -/

theorem isUsable_transport (t : TransportSection) (age : Nat) :
    IsUsable (t.valueWith (Text.ofNat age)) := by
  have hword : IsUsable "max-age=" := by decide
  refine ((hword.append (Text.isUnbroken_ofNat age)).append ?_).append ?_
  · split <;> decide
  · split <;> decide

theorem isUsable_label_frame (p : FramePolicy) : IsUsable p.label := by
  cases p <;> decide

theorem isUsable_label_referrer (p : ReferrerPolicy) : IsUsable p.label := by
  cases p <;> decide

theorem value_of_ne_allowFrom {f : FrameSection} (hf : f.policy ≠ .allowFrom) :
    f.value = f.policy.label := by
  rw [FrameSection.value]
  split
  · next ha => exact absurd ha hf
  · rfl

/-- An origin that can be seen follows the word, without the white space at its end. -/
theorem value_allowFrom {f : FrameSection} (hf : f.policy = .allowFrom)
    (ho : (f.allowFrom.getD []).IsVisible) :
    f.value = ("ALLOW-FROM " : Text) ++ Text.trimEnd Text.isBlank (f.allowFrom.getD []) := by
  have hfirst : ∀ t : Text, (("ALLOW-FROM " : Text) ++ t).dropWhile Text.isBlank =
      ("ALLOW-FROM " : Text) ++ t := fun _ => rfl
  have hvalue : f.value = Text.strip (("ALLOW-FROM " : Text) ++ f.allowFrom.getD []) := by
    rw [FrameSection.value, hf]
    rfl
  rw [hvalue, Text.strip, Text.trim, hfirst, Text.trimEnd_append_of_ne_nil ho.trimEnd_ne_nil]

theorem isUsable_allowFrom {f : FrameSection} (hf : f.policy = .allowFrom)
    (ho : IsUsable (f.allowFrom.getD [])) : IsUsable f.value := by
  have hword : IsUsable "ALLOW-FROM " := by decide
  rw [value_allowFrom hf ho.visible]
  exact hword.append ho.unbroken.trimEnd

/-- The value is usable if the text that is given for it is. -/
theorem isUsable_headerValue (h : ∀ text, c.given? s = some text → IsUsable text) :
    IsUsable (c.headerValue s) := by
  cases s with
  | transport => exact isUsable_transport c.transport c.transport.maxAge
  | contentType => exact (by decide : IsUsable "nosniff")
  | scripts => exact (by decide : IsUsable "1; mode=block")
  | content => exact h _ rfl
  | referrer => exact isUsable_label_referrer c.referrer.policy
  | permissions => exact h _ rfl
  | frame =>
    by_cases hpolicy : c.frame.policy = .allowFrom
    · exact isUsable_allowFrom hpolicy (h _ (by rw [given?, if_pos hpolicy]))
    · have hvalue : c.headerValue .frame = c.frame.policy.label := value_of_ne_allowFrom hpolicy
      exact hvalue ▸ isUsable_label_frame c.frame.policy

/-- The headers of a configuration, section by section. -/
structure RendersSections (c : Config) (rendered : List (Text × Text)) : Prop where
  nodup : (rendered.map Prod.fst).Nodup
  /-- Only sections have headers, and only those that are switched on. -/
  of_section : ∀ field ∈ rendered,
    ∃ s, c.isOn s = true ∧ field = (c.headerName s, c.headerValue s)
  mem_iff : ∀ s, ∀ name ∈ s.names,
    (∃ value, (name, value) ∈ rendered) ↔ c.isOn s = true ∧ name = c.headerName s
  /-- A text that is given for a header is not empty. -/
  given_ne_nil : ∀ s text, c.isOn s = true → c.given? s = some text → text ≠ []
  usable : ∀ s, (∀ text, c.given? s = some text → IsUsable text) → IsUsable (c.headerValue s)
  /-- The texts of the policies are sent as they are given. -/
  verbatim : c.headerValue .content = c.content.policy ∧
    c.headerValue .permissions = c.permissions.policy
  /-- An origin that can be seen is sent after the word, and something of it is left. -/
  origin : ∀ text, c.given? .frame = some text → text.IsVisible →
    c.headerValue .frame = ("ALLOW-FROM " : Text) ++ Text.trimEnd Text.isBlank text ∧
      Text.trimEnd Text.isBlank text ≠ []

theorem rendersSections_headersWith (hp : c.problem? = none) :
    c.RendersSections (c.headersWith (c.headerValue .transport)) where
  nodup := c.nodup_names_headersWith _
  of_section _ hf := (mem_headersWith_iff hp).mp hf
  mem_iff s name hname := by
    constructor
    · rintro ⟨value, hm⟩
      obtain ⟨s', hon, hfield⟩ := (mem_headersWith_iff hp).mp hm
      obtain ⟨rfl, -⟩ := Prod.mk.inj hfield
      obtain rfl := Section.eq_of_mem_names hname (c.headerName_mem_names s')
      exact ⟨hon, rfl⟩
    · rintro ⟨hon, rfl⟩
      exact ⟨_, (mem_headersWith_iff hp).mpr ⟨s, hon, rfl⟩⟩
  given_ne_nil _ _ hs ht := given_ne_nil hp hs ht
  usable _ h := isUsable_headerValue h
  verbatim := ⟨rfl, rfl⟩
  origin text ht hv := by
    rw [given?] at ht
    split at ht
    · next hpolicy =>
      obtain rfl := Option.some.inj ht
      exact ⟨value_allowFrom hpolicy hv, hv.trimEnd_ne_nil⟩
    · cases ht

/-- A configuration that is switched on and has no problem sends the headers of the sections that
are switched on, unless one of them is an age with more digits than can be written. Their values are
usable, except for what the configuration itself gives. -/
theorem rendersSections (he : c.enabled = true) (hp : c.problem? = none) :
    ((c.transport.enabled = true → IsShort c.transport.maxAge) →
      ∃ rendered, c.headers = .ok rendered ∧ c.RendersSections rendered) ∧
    (c.transport.enabled = true → ¬ IsShort c.transport.maxAge →
      c.headers = .error (overlongFailure [])) := by
  constructor
  · intro hs
    exact ⟨_, headers_of_isShort he hs, rendersSections_headersWith hp⟩
  · exact headers_of_not_isShort he

/-- The profile of the defaults, with one origin that may show the pages in a frame. -/
def framed : Config where
  frame := { policy := .allowFrom, allowFrom := some "https://example.com" }

theorem rendersSections_framed : framed.enabled = true ∧ framed.problem? = none ∧
    IsShort framed.transport.maxAge ∧
    ∃ rendered, framed.headers = .ok rendered ∧ framed.RendersSections rendered ∧
      (("X-Frame-Options", "ALLOW-FROM https://example.com") : Text × Text) ∈ rendered := by
  have hp : framed.problem? = none := by decide +kernel
  have hs : IsShort framed.transport.maxAge := isShort_iff.mpr (by decide +kernel)
  obtain ⟨rendered, hr, hc⟩ := (rendersSections (c := framed) rfl hp).1 fun _ => hs
  have hframe : (("X-Frame-Options", "ALLOW-FROM https://example.com") : Text × Text) ∈
      framed.headers.toOption.getD [] := by decide +kernel
  rw [hr] at hframe
  exact ⟨rfl, hp, hs, rendered, hr, hc, hframe⟩

/-- The profile of the defaults, with a line break for a policy. -/
def brokenPolicy : Config where
  content := { policy := ['\n'] }

/-- The profile of the defaults, with the least age that cannot be written. -/
def endless : Config where
  transport := { maxAge := leastOverlong }

/-- A line break is not an empty policy, so it is sent. An age that cannot be written is no problem
of a configuration, so there are no headers. -/
theorem sends_brokenPolicy : (brokenPolicy.enabled = true ∧ brokenPolicy.problem? = none ∧
    ∃ rendered, brokenPolicy.headers = .ok rendered ∧
      ∃ field ∈ rendered, field.1 = "Content-Security-Policy" ∧
        ¬ field.2.IsVisible ∧ ¬ field.2.IsUnbroken) ∧
    endless.enabled = true ∧ endless.problem? = none ∧
      endless.headers = .error (overlongFailure []) := by
  constructor
  · have hs : IsShort brokenPolicy.transport.maxAge := isShort_iff.mpr (by decide +kernel)
    exact ⟨rfl, by decide +kernel, _, headers_of_isShort rfl fun _ => hs,
      ("Content-Security-Policy", ['\n']), by decide +kernel, rfl, by decide, by decide⟩
  · exact ⟨rfl, by decide +kernel, headers_of_not_isShort rfl rfl not_isShort_leastOverlong⟩

end Config
end BundleHost.Security
