import BundleHost.Proofs.Security.Rendering
import BundleHost.Proofs.Service.Running

/-! The layers one by one: what each of them does to a response of the handler inside of it, and
under which conditions a response gets through at all. A layer changes headers of a few names and
leaves the status and the body alone. -/

namespace BundleHost

variable {names names' : List Text} {r r' r'' : Response} {e : Exchange} {inner : Handler}
  {id : Text} {request : Request}

/-- The clock shows a time before and after the request. -/
structure Occasion.IsTimed (o : Occasion) : Prop where
  started : ∃ x, o.started.asInstant = .ok x
  finished : ∃ x, o.finished.asInstant = .ok x

/-- The second response is the first one, up to the headers of some names. -/
structure Response.AgreesBut (names : List Text) (r r' : Response) : Prop where
  status : r'.status = r.status
  body_eq : r'.body = r.body
  values_eq : ∀ other, (∀ name ∈ names, Headers.Apart name other) →
    r'.headers.values other = r.headers.values other

namespace Response.AgreesBut

theorem refl (names : List Text) (r : Response) : r.AgreesBut names r :=
  ⟨rfl, rfl, fun _ _ => rfl⟩

theorem trans (h : r.AgreesBut names r') (h' : r'.AgreesBut names' r'') :
    r.AgreesBut (names ++ names') r'' where
  status := h'.status.trans h.status
  body_eq := h'.body_eq.trans h.body_eq
  values_eq := by
    intro other ha
    obtain ⟨hn, hn'⟩ := List.forall_mem_append.mp ha
    rw [h'.values_eq other hn', h.values_eq other hn]

end Response.AgreesBut

/-! ### Changes of a response -/

namespace Exchange

theorem ok_of_mapResponse {f : Response → Response} (h : (e.mapResponse f).result = .ok r') :
    ∃ r, e.result = .ok r ∧ f r = r' :=
  of_map_eq_ok h

theorem error_of_mapResponse {f : Response → Response} {failure : Failure}
    (h : (e.mapResponse f).result = .error failure) : e.result = .error failure :=
  of_map_eq_error h

theorem ok_of_bindResponse {f : Response → Except Failure Response}
    (h : (e.bindResponse f).result = .ok r') : ∃ r, e.result = .ok r ∧ f r = .ok r' :=
  of_bind_eq_ok h

theorem result_mapResponse (f : Response → Response) (h : e.result = .ok r) :
    (e.mapResponse f).result = .ok (f r) := by
  rw [mapResponse, h]
  rfl

theorem result_bindResponse (f : Response → Except Failure Response) (h : e.result = .ok r) :
    (e.bindResponse f).result = f r := by
  rw [bindResponse, h]
  rfl

/-- A change that leaves its own results alone makes no difference the second time. -/
theorem bindResponse_bindResponse {f : Response → Except Failure Response}
    (hf : ∀ r r', f r = .ok r' → f r' = .ok r') (e : Exchange) :
    (e.bindResponse f).bindResponse f = e.bindResponse f := by
  obtain ⟨records, requestId, result⟩ := e
  cases result with
  | error failure => rfl
  | ok r =>
    show Exchange.mk records requestId ((f r).bind f) = ⟨records, requestId, f r⟩
    cases hr : f r with
    | error failure => rfl
    | ok r' =>
      show Exchange.mk records requestId (f r') = _
      rw [hf r r' hr]

end Exchange

/-! ### Faults -/

namespace FailureLayers

/-- A response passes, and a fault is answered, if its message can be sent. -/
theorem of_answerFaults_ok (h : (answerFaults inner id request).result = .ok r') :
    (inner id request).result = .ok r' ∨
      ∃ f message, (inner id request).result = .error (.fault f) ∧ f.message = .text message ∧
        r' = faultResponse (inner id request).requestId message := by
  rw [answerFaults] at h
  split at h
  · next f hf =>
    dsimp only at h
    rw [answerFault] at h
    split at h
    · next message hm => exact .inr ⟨f, message, hf, hm, (Except.ok.inj h).symm⟩
    · cases h
  · exact .inl h

theorem answerFaults_ok (h : (inner id request).result = .ok r) :
    (answerFaults inner id request).result = .ok r := by
  rw [answerFaults, h]
  exact h

theorem answerFaults_of_fault {f : Fault} {message : Text}
    (h : (inner id request).result = .error (.fault f)) (hm : f.message = .text message) :
    ∃ r, (answerFaults inner id request).result = .ok r := by
  rw [answerFaults, h]
  dsimp only
  rw [answerFault, hm]
  exact ⟨_, rfl⟩

end FailureLayers

/-! ### Other origins -/

namespace CrossOrigin

def changed : List Text := [
  "vary", "access-control-allow-credentials", "access-control-expose-headers",
  "access-control-allow-origin"]

theorem values_share {other : Text} (ha : ∀ name ∈ changed, Headers.Apart name other)
    (origins : List Text) (origin : Option Text) (h : Headers) :
    (share origins origin h).values other = h.values other := by
  simp only [changed, List.forall_mem_cons] at ha
  obtain ⟨hvary, hcredentials, hexpose, horigin, -⟩ := ha
  unfold share
  rw [Headers.values_addVary hvary]
  cases origin with
  | none => rfl
  | some o =>
    dsimp only
    split
    · rw [Headers.values_set horigin, Headers.values_set hexpose, Headers.values_set hcredentials]
    · rw [Headers.values_set hexpose, Headers.values_set hcredentials]

theorem agreesBut_share (origins : List Text) (origin : Option Text) (r : Response) :
    r.AgreesBut changed { r with headers := share origins origin r.headers } :=
  ⟨rfl, rfl, fun _ ha => values_share ha origins origin r.headers⟩

theorem askedMethod?_of_get (hm : request.method = .text "GET") : askedMethod? request = none := by
  have ho : request.hasMethod "OPTIONS" = false := by
    rw [Request.hasMethod, hm]
    decide
  rw [askedMethod?, ho]
  rfl

theorem of_layer_ok {origins : List Text} (h : (layer origins inner id request).result = .ok r') :
    (∃ origin method, askedMethod? request = some method ∧
      r' = answer origins origin method request) ∨
      ∃ r, (inner id request).result = .ok r ∧ r.AgreesBut changed r' := by
  rw [layer] at h
  split at h
  · next method hq => exact .inl ⟨_, method, hq, (Except.ok.inj h).symm⟩
  · obtain ⟨r, hr, rfl⟩ := Exchange.ok_of_mapResponse h
    exact .inr ⟨r, hr, agreesBut_share _ _ r⟩

theorem layer_ok (origins : List Text) (h : (inner id request).result = .ok r) :
    ∃ r', (layer origins inner id request).result = .ok r' ∧
      (askedMethod? request = none → r.AgreesBut changed r') := by
  rw [layer]
  split
  · next hq =>
    rw [hq]
    exact ⟨_, rfl, nofun⟩
  · exact ⟨_, Exchange.result_mapResponse _ h, fun _ => agreesBut_share _ _ r⟩

end CrossOrigin

/-! ### Compression -/

namespace Compression

def changed : List Text := ["content-length", "content-encoding", "vary"]

theorem agreesBut_compress (r : Response) :
    r.AgreesBut ["content-length", "content-encoding"] (compress r) := by
  refine ⟨rfl, rfl, fun other ha => ?_⟩
  simp only [List.forall_mem_cons] at ha
  obtain ⟨hlength, hencoding, -⟩ := ha
  show ((r.headers.erase "content-length").set "content-encoding" "gzip").values other = _
  rw [Headers.values_set hencoding, Headers.values_erase hlength]

theorem agreesBut_addVary (name : Text) (r : Response) :
    r.AgreesBut ["vary"] { r with headers := r.headers.addVary name } :=
  ⟨rfl, rfl, fun _ ha => Headers.values_addVary (ha _ (by simp)) name r.headers⟩

theorem agreesBut_of_answer {level : Value} (h : answer level request r = .ok r') :
    r.AgreesBut changed r' := by
  rw [answer] at h
  split at h
  · split at h
    · cases h
    · cases h
      exact (agreesBut_compress r).trans (agreesBut_addVary _ _)
  · cases h
    have hr := Response.AgreesBut.refl ["content-length", "content-encoding"] r
    exact hr.trans (agreesBut_addVary _ r)

theorem agreesBut_of_respond {minimumSize level : Value}
    (h : respond minimumSize level request r = .ok r') : r.AgreesBut changed r' := by
  obtain ⟨applies, -, h⟩ := of_bind_eq_ok h
  split at h
  · exact agreesBut_of_answer h
  · cases h
    exact .refl _ r

theorem applies_int (n : Int) (r : Response) : ∃ b, applies (.int n) r = .ok b := by
  rw [applies]
  split
  · exact ⟨false, rfl⟩
  · exact ⟨_, rfl⟩

/-- A size and a level that can be used let every response through. -/
theorem respond_ok (n : Int) {level : Value} (hl : levelFailure? level = none)
    (request : Request) (r : Response) : ∃ r', respond (.int n) level request r = .ok r' := by
  obtain ⟨b, hb⟩ := applies_int n r
  rw [respond, hb]
  cases b with
  | false => exact ⟨r, rfl⟩
  | true =>
    show ∃ r', answer level request r = .ok r'
    rw [answer, hl]
    split <;> exact ⟨_, rfl⟩

theorem layer_ok (n : Int) {level : Value} (hl : levelFailure? level = none)
    (h : (inner id request).result = .ok r) :
    ∃ r', (layer (.int n) level inner id request).result = .ok r' ∧ r.AgreesBut changed r' := by
  obtain ⟨r', hr'⟩ := respond_ok n hl request r
  refine ⟨r', ?_, agreesBut_of_respond hr'⟩
  rw [layer, Exchange.result_bindResponse _ h, hr']

end Compression

/-! ### Security headers -/

namespace Security

theorem agreesBut_secure (rendered : List (Text × Text)) (r : Response) :
    r.AgreesBut (rendered.map Prod.fst) { r with headers := secure rendered r.headers } where
  status := rfl
  body_eq := rfl
  values_eq := by
    intro other ha
    rw [List.forall_mem_map] at ha
    exact values_secure_of_apart ha r.headers

/-- The headers that are to be added can all be sent. -/
def CanBeAdded (rendered : List (Text × Text)) (h : Headers) : Prop :=
  ∀ field ∈ rendered, h.contains field.1 = false → HeaderValue.isSendable field.2 = true

theorem unsendable?_eq_none {rendered : List (Text × Text)} {h : Headers} :
    unsendable? rendered h = none ↔ CanBeAdded rendered h := by
  rw [unsendable?, Option.map_eq_none_iff, List.find?_eq_none]
  refine forall₂_congr fun field _ => ?_
  simp

theorem layer_ok {rendered : List (Text × Text)} (hc : CanBeAdded rendered r.headers)
    (h : (inner id request).result = .ok r) :
    (layer rendered inner id request).result =
      .ok { r with headers := secure rendered r.headers } := by
  rw [layer, Exchange.result_bindResponse _ h, unsendable?_eq_none.mpr hc]

end Security

namespace App

variable {app : App}

theorem rendered_of_not_enabled (h : app.security.enabled = false) : app.rendered = [] := by
  have hr := app.isRendered
  rw [Security.Config.headers, h] at hr
  exact (Except.ok.inj hr).symm

theorem of_securityLayer_ok (h : (app.securityLayer inner id request).result = .ok r') :
    ∃ r, (inner id request).result = .ok r ∧
      r' = { r with headers := Security.secure app.rendered r.headers } := by
  rw [securityLayer] at h
  split at h
  · obtain ⟨r, hr, h⟩ := Exchange.ok_of_bindResponse h
    split at h
    · cases h
    · exact ⟨r, hr, (Except.ok.inj h).symm⟩
  · next he =>
    rw [rendered_of_not_enabled (by simpa using he)]
    exact ⟨r', h, rfl⟩

theorem securityLayer_ok
    (hs : ∀ field ∈ app.rendered, HeaderValue.isSendable field.2 = true)
    (h : (inner id request).result = .ok r) :
    (app.securityLayer inner id request).result =
      .ok { r with headers := Security.secure app.rendered r.headers } := by
  rw [securityLayer]
  split
  · exact Security.layer_ok (fun field hf _ => hs field hf) h
  · next he =>
    rw [rendered_of_not_enabled (by simpa using he)]
    exact h

end App

/-! ### The access log -/

namespace AccessLog

variable {occasion : Occasion} {uiPrefix : Text}

/-- How a request passes the access log: it is skipped, it ends in a failure and no record is added,
or there is a response and one record about it. -/
inductive Passes (occasion : Occasion) (uiPrefix id : Text) (request : Request) (e : Exchange) :
    Exchange → Prop
  | skipped (skips : isSkipped request = true) : Passes occasion uiPrefix id request e e
  | failed {e' : Exchange} {f : Failure} (asks : isSkipped request = false)
      (records : e'.records <+: e.records) (result : e'.result = .error f) :
      Passes occasion uiPrefix id request e e'
  | noted {r : Response} {arrival : Arrival} {finished : Number} {noted : Log.Record}
      (asks : isSkipped request = false) (result : e.result = .ok r)
      (arrives : arrive occasion request = .ok arrival)
      (finishes : occasion.finished.asInstant = .ok finished)
      (record_eq : record arrival finished uiPrefix id request r.status = .ok noted) :
      Passes occasion uiPrefix id request e { e with records := e.records ++ [noted] }

theorem passes_layer (occasion : Occasion) (uiPrefix : Text) (inner : Handler) (id : Text)
    (request : Request) :
    Passes occasion uiPrefix id request (inner id request)
      (layer occasion uiPrefix inner id request) := by
  rw [layer]
  split
  · next hs => exact .skipped hs
  · next hs =>
    have ha : isSkipped request = false := by simpa using hs
    split
    · exact .failed ha List.nil_prefix rfl
    · next arrival harrives =>
      rw [logged]
      split
      · next f he => exact .failed ha List.prefix_rfl he
      · next response he =>
        split
        · exact .failed ha List.prefix_rfl rfl
        · next noted hn =>
          obtain ⟨finished, hfinishes, hr⟩ := of_bind_eq_ok hn
          exact .noted ha he harrives hfinishes hr

/-- What holds of the records from inside, and of the one that is added, holds of all. -/
theorem Passes.forall_records {P : Log.Record → Prop} {e' : Exchange}
    (hp : Passes occasion uiPrefix id request e e') (h : ∀ noted ∈ e.records, P noted)
    (hn : ∀ {arrival finished status noted},
      record arrival finished uiPrefix id request status = .ok noted → P noted) :
    ∀ noted ∈ e'.records, P noted := by
  cases hp with
  | skipped skips => exact h
  | failed asks records result => exact fun noted hm => h noted (records.subset hm)
  | noted asks result arrives finishes record_eq =>
    rw [List.forall_mem_append, List.forall_mem_singleton]
    exact ⟨h, hn record_eq⟩

/-- A request that can be logged, or need not be: the clock shows times and the client has an
address. -/
def IsLoggable (occasion : Occasion) (request : Request) : Prop :=
  isSkipped request = true ∨
    occasion.IsTimed ∧ ∃ host, Address.clientHost request = .ok host

theorem of_layer_ok (h : (layer occasion uiPrefix inner id request).result = .ok r) :
    (inner id request).result = .ok r ∧ IsLoggable occasion request := by
  have hp := passes_layer occasion uiPrefix inner id request
  generalize layer occasion uiPrefix inner id request = e at h hp
  cases hp with
  | skipped skips => exact ⟨h, .inl skips⟩
  | failed asks records result =>
    rw [result] at h
    cases h
  | noted asks result arrives finishes record_eq =>
    obtain ⟨started, hs, arrives⟩ := of_bind_eq_ok arrives
    obtain ⟨host, hc, -⟩ := of_bind_eq_ok arrives
    exact ⟨h, .inr ⟨⟨⟨_, hs⟩, ⟨_, finishes⟩⟩, host, hc⟩⟩

/-- What a record about an answered request is made of. -/
theorem of_record_ok {arrival : Arrival} {finished : Number} {status : Value}
    {noted : Log.Record} (h : record arrival finished uiPrefix id request status = .ok noted) :
    ∃ level whole,
      levelOfValues uiPrefix (.text (Address.path request)) status = .ok level ∧
      noted = {
        level
        logger := logger
        message := line (duration arrival.started finished) whole
          (access arrival finished id request status)
        access := some (access arrival finished id request status) } := by
  obtain ⟨level, hlevel, h⟩ := of_bind_eq_ok h
  obtain ⟨whole, -, h⟩ := of_bind_eq_ok h
  exact ⟨level, whole, hlevel, (Except.ok.inj h).symm⟩

theorem record_ok (arrival : Arrival) (finished : Number) (uiPrefix id : Text)
    (request : Request) (status : Nat) :
    ∃ r, record arrival finished uiPrefix id request (.int status) = .ok r := by
  rw [record, access, levelOfValues_int]
  exact ⟨_, rfl⟩

/-- A response with a number for its status passes, if the request can be logged. -/
theorem layer_ok (uiPrefix : Text) (hl : IsLoggable occasion request)
    (h : (inner id request).result = .ok r) {status : Nat} (hr : r.status = .int status) :
    (layer occasion uiPrefix inner id request).result = .ok r := by
  rw [layer]
  rcases hl with hskips | ⟨ht, host, hh⟩
  · rw [if_pos hskips]
    exact h
  · split
    · exact h
    · obtain ⟨started, hs⟩ := ht.started
      obtain ⟨finished, hf⟩ := ht.finished
      obtain ⟨noted, hn⟩ := record_ok ⟨started, host⟩ finished uiPrefix id request status
      have ha : arrive occasion request = .ok ⟨started, host⟩ := by rw [arrive, hs, hh]; rfl
      have hrec : (occasion.finished.asInstant.bind fun finished =>
          record ⟨started, host⟩ finished uiPrefix id request r.status) = .ok noted := by
        rw [hf, hr]
        exact hn
      rw [ha]
      dsimp only
      rw [logged, h]
      dsimp only
      rw [hrec]

/-- A response does not show what the clock showed before and after the request. -/
theorem result_layer (uiPrefix : Text) (ht : occasion.IsTimed)
    (hs : ∀ r, (inner id request).result = .ok r → ∃ n : Nat, r.status = .int n) :
    (layer occasion uiPrefix inner id request).result =
      if isSkipped request then (inner id request).result
      else (Address.clientHost request).bind fun _ => (inner id request).result := by
  obtain ⟨started, hstarted⟩ := ht.started
  by_cases hskips : isSkipped request = true
  · rw [layer, if_pos hskips, if_pos hskips]
  · rw [if_neg hskips]
    cases hc : Address.clientHost request with
    | error f =>
      rw [layer, if_neg hskips, arrive, hstarted, hc]
      rfl
    | ok host =>
      show _ = (inner id request).result
      cases hr : (inner id request).result with
      | ok r =>
        obtain ⟨n, hn⟩ := hs r hr
        exact layer_ok uiPrefix (.inr ⟨ht, host, hc⟩) hr hn
      | error f =>
        have ha : arrive occasion request = .ok ⟨started, host⟩ := by
          rw [arrive, hstarted, hc]
          rfl
        rw [layer, if_neg hskips, ha]
        dsimp only
        rw [logged, hr]
        exact hr

end AccessLog

/-! ### The identifier -/

namespace RequestId

theorem of_layer_ok {occasion : Occasion} {outer : Text}
    (h : (layer occasion inner outer request).result = .ok r') :
    ∃ r, (inner (choose occasion.freshId request) request).result = .ok r ∧
      r' = { r with headers := r.headers.set header (choose occasion.freshId request) } := by
  obtain ⟨r, hr, rfl⟩ := Exchange.ok_of_mapResponse h
  exact ⟨r, hr, rfl⟩

theorem layer_ok (occasion : Occasion) (outer : Text)
    (h : (inner (choose occasion.freshId request) request).result = .ok r) :
    (layer occasion inner outer request).result =
      .ok { r with headers := r.headers.set header (choose occasion.freshId request) } :=
  Exchange.result_mapResponse _ h

theorem agreesBut_set (value : Text) (r : Response) :
    r.AgreesBut [header] { r with headers := r.headers.set header value } :=
  ⟨rfl, rfl, fun _ ha => Headers.values_set (ha header (by simp)) value r.headers⟩

end RequestId

end BundleHost
