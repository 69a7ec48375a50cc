import BundleHost.Proofs.Text.Trimming
import BundleHost.Settings.Check

/-! What settings are like that passed their checks. A namespace is made of a text without slashes
at its ends and of one slash after it, a profile is one of those that there are, and numbers are
within their bounds. The defaults, which are not checked, are like that too. -/

namespace BundleHost

namespace Validation

variable {α β : Type}

/-- A check of many parts is passed only if each part passes its own. -/
theorem Checked.of_ap_eq_valid {f : Checked (α → β)} {a : Checked α} {b : β}
    (h : f.ap a = .valid b) : ∃ g x, f = .valid g ∧ a = .valid x ∧ g x = b := by
  cases f with
  | invalid issues => cases a <;> cases h
  | valid g =>
    cases a with
    | invalid issues => cases h
    | valid x => exact ⟨g, x, rfl, rfl, Checked.valid.inj h⟩

theorem Checked.of_andThen_eq_valid {c : Checked α} {f : α → Checked β} {b : β}
    (h : c.andThen f = .valid b) : ∃ a, c = .valid a ∧ f a = .valid b := by
  cases c with
  | invalid issues => cases h
  | valid a => exact ⟨a, rfl, h⟩

/-- What holds of the default and of all that a check lets through holds of a field. -/
theorem fieldOr_induction {P : α → Prop} {fields : Fields} {name : Text} {default x : α}
    {check : Check α} (hd : P default) (hc : ∀ v a, check v = .valid a → P a)
    (h : fieldOr fields name default check = .valid x) : P x := by
  rw [fieldOr] at h
  split at h
  · next v _ =>
    cases hv : check v with
    | invalid issues => rw [hv] at h; cases h
    | valid a =>
      rw [hv] at h
      exact Checked.valid.inj h ▸ hc v a hv
  · exact Checked.valid.inj h ▸ hd

theorem of_checkBetween {least greatest n : Int} {v : Value}
    (h : checkBetween least greatest v = .valid n) : least ≤ n ∧ n ≤ greatest := by
  obtain ⟨m, hm, h⟩ := Checked.of_andThen_eq_valid h
  obtain ⟨k, -, hk⟩ := Checked.of_andThen_eq_valid hm
  split at hk
  · cases hk
  · split at h
    · cases h
    · cases hk
      cases h
      omega

theorem between_of_fieldOr {fields : Fields} {name : Text} {least greatest default n : Int}
    (h : fieldOr fields name default (checkBetween least greatest) = .valid n)
    (hd : least ≤ default ∧ default ≤ greatest) : least ≤ n ∧ n ≤ greatest :=
  fieldOr_induction (P := fun n => least ≤ n ∧ n ≤ greatest) hd (fun _ _ => of_checkBetween) h

end Validation

namespace Settings

open Validation

/-- A namespace as it is kept: a text without slashes at its ends, and a slash. -/
def IsNamespace (ns : Text) : Prop :=
  ∃ bare, ns = bare ++ ['/'] ∧ bare ≠ [] ∧ Text.IsTrimmed Text.isSlash bare

/-- What the service can rely on. -/
structure Fit (s : Settings) : Prop where
  ns : IsNamespace s.ns
  cacheMaxAge : 0 ≤ s.cacheMaxAge ∧ s.cacheMaxAge ≤ 63072000
  securityProfile : s.securityProfile ∈ profiles
  gzipMinimumSize : 0 ≤ s.gzipMinimumSize ∧ s.gzipMinimumSize ≤ 10485760
  gzipLevel : 1 ≤ s.gzipLevel ∧ s.gzipLevel ≤ 9
  port : 1024 ≤ s.port ∧ s.port ≤ 65535
  logLevel : ∃ level : Log.Level, s.logLevel = level.name

/-! ### Single settings -/

theorem isNamespace_of_normalNamespace? {t ns : Text} (h : normalNamespace? t = some ns) :
    IsNamespace ns := by
  rw [normalNamespace?] at h
  split at h
  · cases h
  · next hb =>
    refine ⟨Text.trim Text.isSlash (Text.strip t), (Option.some.inj h).symm, ?_,
      Text.isTrimmed_trim _ _⟩
    simpa using hb

theorem isNamespace_of_checkNamespace {v : Value} {ns : Text}
    (h : checkNamespace v = .valid ns) : IsNamespace ns := by
  obtain ⟨t, -, h⟩ := Checked.of_andThen_eq_valid h
  split at h
  · next hn => exact Checked.valid.inj h ▸ isNamespace_of_normalNamespace? hn
  · cases h

theorem isNamespace_default : IsNamespace Resolver.defaultNamespace := by
  refine ⟨"admin", rfl, by decide, ⟨?_, ?_⟩⟩
  · rintro c ⟨⟩
    decide
  · rintro c ⟨⟩
    decide

theorem mem_profiles_of_checkProfile {v : Value} {profile : Text}
    (h : checkProfile v = .valid profile) : profile ∈ profiles := by
  obtain ⟨t, -, h⟩ := Checked.of_andThen_eq_valid h
  dsimp only at h
  split at h
  · next hp => exact Checked.valid.inj h ▸ List.contains_iff_mem.mp hp
  · cases h

theorem exists_level_of_checkLogLevel {v : Value} {name : Text}
    (h : checkLogLevel v = .valid name) : ∃ level : Log.Level, name = level.name := by
  obtain ⟨t, -, h⟩ := Checked.of_andThen_eq_valid h
  split at h
  · next level _ => exact ⟨level, (Checked.valid.inj h).symm⟩
  · cases h

/-! ### All settings -/

/-- Settings that passed their checks are fit for use. -/
theorem fit_of_check {given : Fields} {s : Settings} (h : check given = .valid s) : s.Fit := by
  rw [check] at h
  obtain ⟨_, _, h₁₅, hlogLevel, rfl⟩ := Checked.of_ap_eq_valid h
  obtain ⟨_, _, h₁₄, hport, rfl⟩ := Checked.of_ap_eq_valid h₁₅
  obtain ⟨_, _, h₁₃, -, rfl⟩ := Checked.of_ap_eq_valid h₁₄
  obtain ⟨_, _, h₁₂, -, rfl⟩ := Checked.of_ap_eq_valid h₁₃
  obtain ⟨_, _, h₁₁, hgzipLevel, rfl⟩ := Checked.of_ap_eq_valid h₁₂
  obtain ⟨_, _, h₁₀, hgzipMinimumSize, rfl⟩ := Checked.of_ap_eq_valid h₁₁
  obtain ⟨_, _, h₉, hprofile, rfl⟩ := Checked.of_ap_eq_valid h₁₀
  obtain ⟨_, _, h₈, -, rfl⟩ := Checked.of_ap_eq_valid h₉
  obtain ⟨_, _, h₇, hmaxAge, rfl⟩ := Checked.of_ap_eq_valid h₈
  obtain ⟨_, _, h₆, -, rfl⟩ := Checked.of_ap_eq_valid h₇
  obtain ⟨_, _, h₅, -, rfl⟩ := Checked.of_ap_eq_valid h₆
  obtain ⟨_, _, h₄, -, rfl⟩ := Checked.of_ap_eq_valid h₅
  obtain ⟨_, _, h₃, -, rfl⟩ := Checked.of_ap_eq_valid h₄
  obtain ⟨_, _, h₂, hns, rfl⟩ := Checked.of_ap_eq_valid h₃
  obtain ⟨_, _, h₁, -, rfl⟩ := Checked.of_ap_eq_valid h₂
  cases h₁
  exact {
    ns := fieldOr_induction isNamespace_default (fun _ _ => isNamespace_of_checkNamespace) hns
    cacheMaxAge := between_of_fieldOr hmaxAge (by decide)
    securityProfile :=
      fieldOr_induction (by decide) (fun _ _ => mem_profiles_of_checkProfile) hprofile
    gzipMinimumSize := between_of_fieldOr hgzipMinimumSize (by decide)
    gzipLevel := between_of_fieldOr hgzipLevel (by decide)
    port := between_of_fieldOr hport (by decide)
    logLevel := fieldOr_induction (P := fun name => ∃ level : Log.Level, name = level.name)
      ⟨.info, rfl⟩ (fun _ _ => exists_level_of_checkLogLevel) hlogLevel }

end Settings
end BundleHost
