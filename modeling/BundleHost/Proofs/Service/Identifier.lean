import BundleHost.Proofs.Service.Responses

/-! Under which identifiers requests go. The choice of a client is used if it is a token, which is a
short text of harmless characters, or a token with one line break after it. Every identifier is
therefore of one of these two forms, and the same one is sent back with the response and written to
the access log. The line break gets there too. -/

namespace BundleHost

namespace RequestId

/-- A letter or a digit of ASCII, or one of four marks. -/
def IsTokenChar (c : Char) : Prop :=
  'a' ≤ c ∧ c ≤ 'z' ∨ 'A' ≤ c ∧ c ≤ 'Z' ∨ '0' ≤ c ∧ c ≤ '9' ∨ c ∈ ['.', '_', ':', '-']

instance (c : Char) : Decidable (IsTokenChar c) := inferInstanceAs (Decidable (_ ∨ _))

/-- One character to sixty-four, all of which are harmless. -/
structure IsToken (t : Text) : Prop where
  least : 1 ≤ t.length
  most : t.length ≤ 64
  chars : ∀ c ∈ t, IsTokenChar c

/-- A token and a line break, which together are not too long. -/
def IsBrokenToken (t : Text) : Prop :=
  ∃ token, IsToken token ∧ t = token ++ ['\n'] ∧ t.length ≤ 64

/-! ### Choices of clients -/

theorem isSafe_iff {c : Char} : isSafe c = true ↔ IsTokenChar c := by
  have hbetween (first last : Char) : (decide (first ≤ c) && decide (c ≤ last)) = true ↔
      first ≤ c ∧ c ≤ last := by
    rw [Bool.and_eq_true, decide_eq_true_eq, decide_eq_true_eq]
  have hupper : c.isUpper = true ↔ 'A' ≤ c ∧ c ≤ 'Z' := decide_eq_true_iff
  have hlower : c.isLower = true ↔ 'a' ≤ c ∧ c ≤ 'z' := hbetween 'a' 'z'
  have hdigit : c.isDigit = true ↔ '0' ≤ c ∧ c ≤ '9' := hbetween '0' '9'
  have halphanum : c.isAlphanum = (c.isUpper || c.isLower || c.isDigit) := rfl
  simp only [isSafe, halphanum, Bool.or_eq_true, hupper, hlower, hdigit, beq_iff_eq, IsTokenChar,
    List.mem_cons, List.not_mem_nil, or_false, or_assoc]
  exact or_left_comm

/-- The three conditions of the code on the part before the line break. -/
theorem accepts_eq_true {candidate : Text} :
    accepts candidate = true ↔ candidate.length ≤ 64 ∧ Text.dropLastBreak candidate ≠ [] ∧
      ∀ c ∈ Text.dropLastBreak candidate, IsTokenChar c := by
  simp only [accepts, Bool.and_eq_true, decide_eq_true_eq, List.all_eq_true, isSafe_iff,
    Bool.not_eq_true', List.isEmpty_eq_false_iff, and_assoc]
  rfl

theorem not_isToken_break (start : Text) : ¬ IsToken (start ++ ['\n']) := by
  intro h
  have hb : IsTokenChar '\n' := h.chars _ (by simp)
  revert hb
  decide

theorem accepts_of_getLast? {candidate : Text} (h : candidate.getLast? ≠ some '\n') :
    accepts candidate = true ↔ IsToken candidate := by
  have hd : Text.dropLastBreak candidate = candidate := if_neg h
  rw [accepts_eq_true, hd, ← List.length_pos_iff]
  constructor
  · rintro ⟨hmost, hleast, hchars⟩
    exact ⟨hleast, hmost, hchars⟩
  · rintro ⟨hleast, hmost, hchars⟩
    exact ⟨hmost, hleast, hchars⟩

theorem accepts_break (token : Text) :
    accepts (token ++ ['\n']) = true ↔ IsToken token ∧ (token ++ ['\n']).length ≤ 64 := by
  have hd : Text.dropLastBreak (token ++ ['\n']) = token := by simp [Text.dropLastBreak]
  have hl : (token ++ ['\n']).length = token.length + 1 := by simp
  rw [accepts_eq_true, hd, hl, ← List.length_pos_iff]
  constructor
  · rintro ⟨hmost, hleast, hchars⟩
    exact ⟨⟨hleast, by omega, hchars⟩, hmost⟩
  · rintro ⟨⟨hleast, -, hchars⟩, hmost⟩
    exact ⟨hmost, hleast, hchars⟩

theorem accepts_iff (candidate : Text) :
    accepts candidate = true ↔ IsToken candidate ∨ IsBrokenToken candidate := by
  by_cases hb : candidate.getLast? = some '\n'
  · obtain ⟨token, rfl⟩ := List.getLast?_eq_some_iff.mp hb
    rw [accepts_break]
    constructor
    · rintro ⟨ht, hl⟩
      exact .inr ⟨token, ht, rfl, hl⟩
    · rintro (ht | ⟨token', ht, he, hl⟩)
      · exact absurd ht (not_isToken_break token)
      · obtain rfl := List.append_cancel_right he
        exact ⟨ht, hl⟩
  · rw [accepts_of_getLast? hb]
    constructor
    · exact .inl
    · rintro (ht | ⟨token, -, rfl, -⟩)
      · exact ht
      · simp at hb

/-! ### Fresh identifiers -/

theorem isTokenChar_of_mem_hex {width n : Nat} : ∀ c ∈ Text.hex false width n, IsTokenChar c := by
  have hdigit : ∀ d < 16, IsTokenChar (Text.hexDigit false d) := by decide
  induction width generalizing n with
  | zero => nofun
  | succ width ih =>
    rw [Text.hex, List.forall_mem_append, List.forall_mem_singleton]
    exact ⟨ih, hdigit _ (Nat.mod_lt n (by decide))⟩

theorem length_fresh (bits : BitVec 32) : (fresh bits).length = 8 := Text.length_hex false 8 _

theorem isToken_fresh (bits : BitVec 32) : IsToken (fresh bits) where
  least := by simp [length_fresh]
  most := by simp [length_fresh]
  chars := isTokenChar_of_mem_hex

/-- The identifier is the choice of the client, if that is accepted, and a token otherwise. -/
theorem choose_fresh (bits : BitVec 32) (request : Request) :
    IsToken (choose (fresh bits) request) ∨
      IsBrokenToken (choose (fresh bits) request) ∧
        request.headers.get? header = some (choose (fresh bits) request) := by
  rw [choose]
  split
  · next candidate hc =>
    rw [hc]
    split
    · next ha =>
      rcases (accepts_iff candidate).mp ha with ht | hb
      · exact .inl ht
      · exact .inr ⟨hb, rfl⟩
    · exact .inl (isToken_fresh bits)
  · exact .inl (isToken_fresh bits)

theorem choose_of_accepts {freshId choice : Text} {request : Request}
    (hc : request.headers.get? header = some choice) (ha : accepts choice = true) :
    choose freshId request = choice := by
  rw [choose, hc]
  exact if_pos ha

/-- The identifier under which a request goes: what the client chooses, if that is accepted, and
eight fresh digits otherwise. -/
structure Names (bits : BitVec 32) (request : Request) (id : Text) : Prop where
  chosen : ∀ choice, request.headers.get? header = some choice → accepts choice = true → id = choice
  fresh : (∀ choice, request.headers.get? header = some choice → accepts choice = false) →
    id = RequestId.fresh bits ∧ id.length = 8

theorem names_choose (bits : BitVec 32) (request : Request) :
    Names bits request (choose (fresh bits) request) where
  chosen _ hc ha := choose_of_accepts hc ha
  fresh h := by
    have hfresh : choose (RequestId.fresh bits) request = RequestId.fresh bits := by
      rw [choose]
      split
      · next candidate hc => rw [h candidate hc, if_neg Bool.false_ne_true]
      · rfl
    rw [hfresh]
    exact ⟨rfl, length_fresh bits⟩

end RequestId

/-! ### Where identifiers are shown -/

/-- The request goes under the identifier; the response carries it in its header, and the access log
has it between brackets and among the facts. -/
structure Exchange.Shows (e : Exchange) (id : Text) : Prop where
  requestId : e.requestId = id
  header : ∀ r, e.result = .ok r → r.headers.values RequestId.header = [id]
  logged : ∀ record ∈ e.records, ∀ a, record.access = some a → a.requestId = id ∧
    ∃ before after, record.message = before ++ '[' :: id ++ ']' :: after

namespace AccessLog

theorem line_eq (took : Number) (status : Int) (a : Log.Access) :
    ∃ before after, line took status a = before ++ '[' :: a.requestId ++ ']' :: after := by
  refine ⟨a.method.plain ++ ' ' :: a.path ++ ' ' :: Text.ofInt status ++ ' ' ::
    took.fixed 1 ++ ("ms " : Text), (" from " : Text) ++ a.clientAddress.plain, ?_⟩
  simp [line]

/-- The only record with facts about the request is the one that the access log adds. -/
theorem shown_of_passes {occasion : Occasion} {uiPrefix id : Text} {request : Request}
    {e e' : Exchange} (hp : Passes occasion uiPrefix id request e e') (he : e.IsInner id) :
    ∀ record ∈ e'.records, ∀ a, record.access = some a → a.requestId = id ∧
      ∃ before after, record.message = before ++ '[' :: id ++ ']' :: after := by
  refine hp.forall_records ?_ ?_
  · intro record hm a ha
    rw [(he.records record hm).access] at ha
    cases ha
  · intro arrival finished status noted hnoted
    obtain ⟨level, whole, -, rfl⟩ := of_record_ok hnoted
    rintro a ⟨⟩
    exact ⟨rfl, line_eq _ whole _⟩

end AccessLog

namespace App

theorem shows_choose (app : App) (installed : Option Installed) (fault : Option Failure)
    (occasion : Occasion) (outer : Text) (request : Request) :
    (app.handler installed fault occasion outer request).Shows
      (RequestId.choose occasion.freshId request) := by
  have hinner := app.isInner_inner installed fault occasion
    (RequestId.choose occasion.freshId request) request
  have hpasses := AccessLog.passes_layer occasion app.uiPrefix
    (app.inner installed fault occasion) (RequestId.choose occasion.freshId request) request
  have hshown := AccessLog.shown_of_passes hpasses hinner
  refine ⟨rfl, fun r hr => ?_, hshown⟩
  obtain ⟨r, -, rfl⟩ := RequestId.of_layer_ok hr
  exact Headers.values_set_self (by decide) _ _

/-- What a client sends is accepted if it is a token or a token with a line break, and nothing else
is. A request goes under a token unless it chooses a token with a line break for itself, and then
it goes under that one. -/
theorem shows_token_or_broken (candidate : Text) (app : App) (installed : Option Installed)
    (fault : Option Failure) {occasion : Occasion} {bits : BitVec 32}
    (hfresh : occasion.freshId = RequestId.fresh bits) (outer : Text) (request : Request) :
    (RequestId.accepts candidate = true ↔
      RequestId.IsToken candidate ∨ RequestId.IsBrokenToken candidate) ∧
    ∃ id, (app.handler installed fault occasion outer request).Shows id ∧
      (RequestId.IsToken id ∨
        RequestId.IsBrokenToken id ∧ request.headers.get? RequestId.header = some id) ∧
      ∀ choice, request.headers.get? RequestId.header = some choice →
        RequestId.IsToken choice ∨ RequestId.IsBrokenToken choice → id = choice := by
  refine ⟨RequestId.accepts_iff candidate, _,
    app.shows_choose installed fault occasion outer request, ?_, ?_⟩
  · rw [hfresh]
    exact RequestId.choose_fresh bits request
  · intro choice hc hform
    exact RequestId.choose_of_accepts hc ((RequestId.accepts_iff choice).mpr hform)

def bare : App where
  values := ({} : Settings).values
  pages _ := .empty
  security := {}
  rendered := Security.Config.headersWith {} (Security.TransportSection.valueWith {} "31536000")
  isRendered := Security.Config.headers_of_isShort rfl fun _ => isShort_iff.mpr (by decide +kernel)
  origins := []
  uiPrefix := "/admin"
  routes := []
  handedOver := none

/-- A request with a token and a line break for its identifier. -/
def breaking : Request where
  path := "/x"
  headers := [("x-request-id", "abc\n")]

/-- A request goes under an identifier with a line break in it. -/
theorem shows_broken :
    ({ freshId := "0badc0de" } : Occasion).freshId = RequestId.fresh 0x0badc0de ∧
      RequestId.accepts "abc\n" = true ∧
      (bare.handler none none { freshId := "0badc0de" } [] breaking).Shows "abc\n" := by
  have hfresh : ({ freshId := "0badc0de" } : Occasion).freshId = RequestId.fresh 0x0badc0de := by
    decide
  have haccepts : RequestId.accepts "abc\n" = true := by decide
  obtain ⟨hform, id, hid, -, huse⟩ := shows_token_or_broken "abc\n" bare none none hfresh []
    breaking
  obtain rfl := huse "abc\n" (by decide) (hform.mp haccepts)
  exact ⟨hfresh, haccepts, hid⟩

end App
end BundleHost
