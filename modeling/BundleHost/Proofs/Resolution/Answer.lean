import BundleHost.Proofs.Asset.MimeType
import BundleHost.Resolution.Answer
import BundleHost.Resolution.Resolver

/-! The response to an outcome. A cache policy that has a number in it can be sent if the number can
be written, so that every outcome is answered then; a policy without a number can always be sent. A
file is answered with its contents under the type of its key. -/

namespace BundleHost

namespace HeaderValue

theorem isSendable_append {a b : Text} (ha : isSendable a = true) (hb : isSendable b = true) :
    isSendable (a ++ b) = true := by
  rw [isSendable, List.all_append]
  exact Bool.and_eq_true_iff.mpr ⟨ha, hb⟩

theorem isSendable_ofNat (n : Nat) : isSendable (Text.ofNat n) = true := by
  rw [isSendable, List.all_eq_true]
  intro c hc
  have hd := Char.isDigit_iff_toNat.mp (Nat.isDigit_of_mem_toDigits (by decide) (by decide) hc)
  have h9 : '9'.toNat < 256 := by decide
  rw [isSendableChar, decide_eq_true_eq]
  omega

theorem isSendable_ofInt (n : Int) : isSendable (Text.ofInt n) = true := by
  cases n with
  | ofNat n => exact isSendable_ofNat n
  | negSucc n => exact isSendable_append (a := ['-']) (by decide) (isSendable_ofNat (n + 1))

end HeaderValue

namespace Outcome

variable {maxAge : Value} {age : Text}

/-- The policy that is sent with an outcome, with the age in writing. -/
def policyWith (o : Outcome) (age : Text) : Text :=
  match o.asset?.map ServedAsset.cachePolicy with
  | some .immutable => lasting age
  | some .noCache => "no-cache"
  | none => noStore

theorem isSendable_policyWith (o : Outcome) (ha : HeaderValue.isSendable age = true) :
    HeaderValue.isSendable (o.policyWith age) = true := by
  rw [policyWith]
  split
  · exact HeaderValue.isSendable_append (HeaderValue.isSendable_append (by decide) ha) (by decide)
  · decide
  · decide

theorem policy_of_written (o : Outcome) (h : maxAge.written = .ok age) :
    o.policy maxAge = .ok (o.policyWith age) := by
  rw [policy, policyWith]
  cases o.asset? with
  | none => rfl
  | some asset =>
    rw [Option.map_some]
    dsimp only
    cases asset.cachePolicy with
    | immutable =>
      rw [cacheControl, h]
      rfl
    | noCache => rfl

theorem respond_of_policy {o : Outcome} {policy : Text} (hp : o.policy maxAge = .ok policy)
    (hs : HeaderValue.isSendable policy = true) : o.respond maxAge = .ok (o.answer policy) := by
  rw [respond, hp]
  exact if_pos hs

theorem respond_of_written (o : Outcome) (h : maxAge.written = .ok age)
    (ha : HeaderValue.isSendable age = true) :
    o.respond maxAge = .ok (o.answer (o.policyWith age)) :=
  respond_of_policy (o.policy_of_written h) (o.isSendable_policyWith ha)

/-- With a whole number of seconds that can be written every outcome is answered. -/
theorem respond_int (o : Outcome) {maxAge : Int} (h : IsShort maxAge.natAbs) :
    o.respond (.int maxAge) = .ok (o.answer (o.policyWith (Text.ofInt maxAge))) :=
  o.respond_of_written (Value.written_int h) (HeaderValue.isSendable_ofInt maxAge)

/-- A policy without an age is sent whatever the age is. -/
theorem respond_of_ageless {o : Outcome}
    (h : o.asset?.map ServedAsset.cachePolicy ≠ some .immutable) (maxAge : Value) (age : Text) :
    o.respond maxAge = .ok (o.answer (o.policyWith age)) := by
  have hp : o.policy maxAge = .ok (o.policyWith age) := by
    rw [policy, policyWith]
    cases ho : o.asset? with
    | none => rfl
    | some asset =>
      rw [ho] at h
      rw [Option.map_some] at h ⊢
      dsimp only
      cases hc : asset.cachePolicy with
      | immutable => exact absurd (congrArg some hc) h
      | noCache => rfl
  refine respond_of_policy hp ?_
  rw [policyWith]
  split
  · next hi => exact absurd hi h
  · decide
  · decide

theorem of_respond_ok {o : Outcome} {r : Response} (h : o.respond maxAge = .ok r) :
    ∃ policy, o.policy maxAge = .ok policy ∧ r = o.answer policy := by
  obtain ⟨policy, hp, h⟩ := of_bind_eq_ok h
  refine ⟨policy, hp, ?_⟩
  split at h
  · exact (Except.ok.inj h).symm
  · cases h

/-- An age that cannot be written leaves a lasting file without a response. -/
theorem respond_of_unwritten {o : Outcome} {e : Failure}
    (h : o.asset?.map ServedAsset.cachePolicy = some .immutable) (hw : maxAge.written = .error e) :
    o.respond maxAge = .error e := by
  obtain ⟨asset, ha, hc⟩ := Option.map_eq_some_iff.mp h
  rw [respond, policy, ha]
  dsimp only
  rw [hc, cacheControl, hw]
  rfl

theorem contentType_sendAsset (asset : ServedAsset) (policy : Text) :
    (sendAsset asset policy).headers.get? "content-type" =
      some (Response.withCharset asset.mimeType) := rfl

end Outcome

namespace Resolver

/-- A registered key is answered with the file of that key, under the type of the key. -/
theorem resolveRequest_of_find? {r : Resolver} {path : Text} {a : Asset}
    (h : r.registry.find? (Key.ofPath r.ns path) = some a) :
    r.resolveRequest path = .hit (Key.ofPath r.ns path) (r.served a) := by
  rw [resolveRequest, resolve, h]

theorem contentType_served (r : Resolver) (a : Asset) (policy : Text) :
    (Outcome.sendAsset (r.served a) policy).headers.get? "content-type" =
      some (MimeType.ofPath a.key) := by
  rw [Outcome.contentType_sendAsset, served, MimeType.withCharset_ofPath]

end Resolver
end BundleHost
