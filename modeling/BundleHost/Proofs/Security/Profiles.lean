import BundleHost.Security.Render
import BundleHost.Service.App
import BundleHost.Settings.Check

/-! The configurations of the profiles. There are four of them, so that what holds of each can be
found by looking at all. Every profile that the settings may name has one, all of its headers can be
sent, and a service of that profile can be made. -/

namespace BundleHost

namespace Security

/-- The configurations that a profile may stand for. -/
def profileConfigs : List Config := [.production, .development, .disabled, {}]

theorem mem_profileConfigs {profile : Text} {c : Config}
    (h : Config.ofProfile? profile = some c) : c ∈ profileConfigs := by
  rw [Config.ofProfile?] at h
  rw [profileConfigs]
  split at h
  · cases h
    simp
  · split at h
    · cases h
      simp
    · split at h
      · cases h
        simp
      · split at h
        · cases h
          simp
        · cases h

/-- The age of all profiles can be written. -/
theorem exists_headers_of_profile {profile : Text} {c : Config}
    (h : Config.ofProfile? profile = some c) : ∃ rendered, c.headers = .ok rendered := by
  have hall : ∀ config ∈ profileConfigs, config.headers.isOk = true := by decide +kernel
  cases hc : c.headers with
  | ok rendered => exact ⟨rendered, rfl⟩
  | error e =>
    have hok := hall c (mem_profileConfigs h)
    rw [hc] at hok
    cases hok

theorem isSendable_of_mem_headers {profile : Text} {c : Config}
    (h : Config.ofProfile? profile = some c) {rendered : List (Text × Text)}
    (hr : c.headers = .ok rendered) :
    ∀ field ∈ rendered, HeaderValue.isSendable field.2 = true := by
  have hall : ∀ config ∈ profileConfigs, ∀ field ∈ config.headers.toOption.getD [],
      HeaderValue.isSendable field.2 = true := by decide +kernel
  have hsent := hall c (mem_profileConfigs h)
  rwa [hr] at hsent

end Security

namespace App

theorem ofProfile?_of_securityOf {profile : Text} {c : Security.Config}
    (h : securityOf profile = .ok c) : Security.Config.ofProfile? profile = some c := by
  unfold securityOf Security.Config.ofProfile at h
  cases hp : Security.Config.ofProfile? profile with
  | none =>
    rw [hp] at h
    cases h
  | some config =>
    rw [hp] at h
    dsimp only [Except.mapError, bind, Except.bind] at h
    rw [Security.Config.problem?_of_ofProfile? hp] at h
    cases h
    rfl

theorem securityOf_of_mem {profile : Text} (h : profile ∈ Settings.profiles) :
    ∃ c, securityOf profile = .ok c := by
  have hs : ∀ p ∈ Settings.profiles, (Security.Config.ofProfile? p).isSome = true := by decide
  obtain ⟨c, hc⟩ := Option.isSome_iff_exists.mp (hs profile h)
  refine ⟨c, ?_⟩
  unfold securityOf Security.Config.ofProfile
  rw [hc]
  dsimp only [Except.mapError, bind, Except.bind]
  rw [Security.Config.problem?_of_ofProfile? hc]
  rfl

end App
end BundleHost
