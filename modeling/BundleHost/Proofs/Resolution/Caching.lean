import Mathlib.Data.List.Infix
import BundleHost.Proofs.Http.Headers
import BundleHost.Proofs.Resolution.Answer
import BundleHost.Proofs.Resolution.Decision

/-! What a response allows a client to keep, and for how long. Only a file that is asked for by its
own key, and that is not the root document, may be kept without asking again; the root document has
to be asked for again in either of its two roles, and a miss is kept by nobody. An age with more
digits than can be written leaves such a file without a response, and no other request. The root
document is sent with the same headers in both roles, but for its type: in the place of a route it
is always HTML, and under its own key it has the type of its name. -/

namespace BundleHost

namespace Outcome

/-! ### Headers of an answer -/

/-- The headers of an answer, in the order in which they are sent. -/
def headersOf (policy mediaType : Text) (body : ByteArray) : Headers := [
  ("x-content-type-options", "nosniff"), ("cache-control", policy),
  ("content-length", Text.ofNat body.size), ("content-type", mediaType)]

theorem ofList_policy (policy : Text) :
    Headers.ofList [noSniff, ("Cache-Control", policy)] =
      ([("x-content-type-options", "nosniff"), ("cache-control", policy)] : List (Text × Text)) :=
  rfl

theorem headers_sendAsset (asset : ServedAsset) (policy : Text) :
    (sendAsset asset policy).headers =
      headersOf policy (Response.withCharset asset.mimeType) asset.payload := by
  rw [sendAsset, Response.ofContent, ofList_policy]
  rfl

theorem headers_miss (key : Text) (reason : MissReason) (policy : Text) :
    ((miss key reason).answer policy).headers =
      headersOf policy "text/plain; charset=utf-8" (Text.utf8 (missMessage key reason)) := by
  have hplain : Response.withCharset "text/plain" = "text/plain; charset=utf-8" := by
    decide +kernel
  rw [answer, Response.plainText, Response.ofContent, ofList_policy, Response.contentHeaders,
    hplain]
  rfl

variable {policy mediaType : Text} {body : ByteArray}

theorem values_noSniff_headersOf :
    (headersOf policy mediaType body).values "X-Content-Type-Options" = ["nosniff"] := rfl

theorem values_cacheControl_headersOf :
    (headersOf policy mediaType body).values "Cache-Control" = [policy] := rfl

theorem values_contentLength_headersOf :
    (headersOf policy mediaType body).values "Content-Length" = [Text.ofNat body.size] := rfl

theorem values_contentType_headersOf :
    (headersOf policy mediaType body).values "Content-Type" = [mediaType] := rfl

/-! ### The word of the lasting policy -/

/-- What the policy of a lasting file has, and no other one. -/
def lastingWord : Text := "immutable"

theorem lastingWord_infix_policyWith (o : Outcome) (age : Text) :
    lastingWord <:+: o.policyWith age ↔ o.asset?.map ServedAsset.cachePolicy = some .immutable := by
  rw [policyWith]
  split
  · next h =>
    have hend : lastingWord <:+: (", immutable" : Text) := by decide
    exact iff_of_true (hend.trans (List.suffix_append _ _).isInfix) h
  · next h =>
    have hnone : ¬lastingWord <:+: ("no-cache" : Text) := by decide
    exact iff_of_false hnone (by simp [h])
  · next h =>
    have hnone : ¬lastingWord <:+: noStore := by decide
    exact iff_of_false hnone (by simp [h])

theorem not_lastingWord_infix_ofNat (n : Nat) : ¬lastingWord <:+: Text.ofNat n := by
  intro h
  have hi : 'i' ∈ lastingWord := by decide
  have hd : 'i'.isDigit = true :=
    Nat.isDigit_of_mem_toDigits (by decide) (by decide) (h.subset hi)
  revert hd
  decide

theorem not_lastingWord_infix_mimeType (path : Text) : ¬lastingWord <:+: MimeType.ofPath path := by
  have hall : ∀ t ∈ MimeType.unknown :: MimeType.table.map Prod.snd, ¬lastingWord <:+: t := by
    decide +kernel
  exact hall _ (MimeType.mem_of_ofPath path)

/-- In the headers of an answer the word stands in the policy or nowhere. -/
theorem lastingWord_mem_headersOf (hm : ¬lastingWord <:+: mediaType) :
    (∃ field ∈ headersOf policy mediaType body, lastingWord <:+: field.2) ↔
      lastingWord <:+: policy := by
  have hn : ¬lastingWord <:+: ("nosniff" : Text) := by decide
  have hl : ¬lastingWord <:+: Text.ofNat body.size := not_lastingWord_infix_ofNat body.size
  simp only [headersOf, List.exists_mem_cons_iff, hn, hl, hm, false_or, List.not_mem_nil, false_and,
    exists_false, or_false]

end Outcome

namespace Resolver

open Outcome

variable {r : Resolver} {path age : Text}

/-! ### Requests -/

/-- The request is for a file by its own key, and not for the root document. -/
def AsksFile (r : Resolver) (path : Text) : Prop :=
  (r.resolveRequest path).isHit = true ∧ Key.ofPath r.ns path ≠ r.rootKey

/-- The request is answered with the root document, under its own key or in place of a route. -/
def AsksRoot (r : Resolver) (path : Text) : Prop :=
  (r.resolveRequest path).isHit = true ∧ Key.ofPath r.ns path = r.rootKey ∨
    (r.resolveRequest path).isFallback = true

/-- What the headers say of any response to a request, with the age in writing. -/
structure HeadedWithCare (r : Resolver) (path age : Text) (response : Response) : Prop where
  noSniff : response.headers.values "X-Content-Type-Options" = ["nosniff"]
  policy : ∃ value, response.headers.values "Cache-Control" = [value]
  lasting : response.headers.values "Cache-Control" =
      [("public, max-age=" : Text) ++ age ++ (", immutable" : Text)] ↔ r.AsksFile path
  /-- No other response has the word, in no header at all. -/
  word : (∃ field ∈ response.headers, ("immutable" : Text) <:+: field.2) ↔ r.AsksFile path
  length : response.headers.values "Content-Length" = [Text.ofNat response.body.size]

/-- What holds of the response to a request, whatever the path resolves to. -/
structure SentWithCare (r : Resolver) (path age : Text) (response : Response) : Prop
    extends HeadedWithCare r path age response where
  status : ∃ n ∈ [200, 404, 503], response.status = .int n
  root : r.AsksRoot path → response.headers.values "Cache-Control" = ["no-cache"]
  refused : response.status ≠ .int 200 →
    response.headers.values "Content-Type" = ["text/plain; charset=utf-8"] ∧
      response.headers.values "Cache-Control" = ["no-store"]
  found : response.status = .int 200 → (r.resolveRequest path).isFallback = false →
    (Key.ofPath r.ns path, response.body) ∈ r.registry.entries
  foundRoot : response.status = .int 200 → (r.resolveRequest path).isFallback = true →
    (r.rootKey, response.body) ∈ r.registry.entries

theorem immutable_served_iff {a : Asset} (ha : r.registry.find? (Key.ofPath r.ns path) = some a) :
    (r.served a).cachePolicy = .immutable ↔ r.AsksFile path := by
  rw [AsksFile, resolveRequest_of_find? ha, served, Registry.key_of_find? ha]
  by_cases h : Key.ofPath r.ns path = r.rootKey <;> simp [h, Outcome.isHit]

theorem immutable_iff_asksFile : (r.resolveRequest path).asset?.map ServedAsset.cachePolicy =
    some .immutable ↔ r.AsksFile path := by
  have hr : r.Resolves (Key.ofPath r.ns path) (r.resolveRequest path) := resolves_resolve r _ _
  generalize ho : r.resolveRequest path = o at hr
  cases hr with
  | hit found =>
    rw [← immutable_served_iff found]
    exact Option.some_inj
  | fallback found =>
    rw [AsksFile, ho]
    exact iff_of_false nofun nofun
  | miss reason =>
    rw [AsksFile, ho]
    exact iff_of_false nofun nofun

theorem headedWithCare_of_headersOf {response : Response} {mediaType : Text}
    (hh : response.headers =
      headersOf ((r.resolveRequest path).policyWith age) mediaType response.body)
    (hm : ¬lastingWord <:+: mediaType) : r.HeadedWithCare path age response := by
  have hw := (lastingWord_infix_policyWith (r.resolveRequest path) age).trans immutable_iff_asksFile
  constructor
  case noSniff => rw [hh, values_noSniff_headersOf]
  case policy => exact ⟨_, by rw [hh, values_cacheControl_headersOf]⟩
  case lasting =>
    rw [hh, values_cacheControl_headersOf, List.singleton_inj]
    constructor
    · intro h
      have hend : lastingWord <:+: (", immutable" : Text) := by decide
      exact hw.mp (h ▸ hend.trans (List.suffix_append _ _).isInfix)
    · intro h
      rw [policyWith, immutable_iff_asksFile.mpr h]
      rfl
  case word =>
    rw [hh]
    exact (lastingWord_mem_headersOf hm).trans hw
  case length => rw [hh, values_contentLength_headersOf]

theorem sentWithCare_hit {a : Asset} (ha : r.registry.find? (Key.ofPath r.ns path) = some a)
    {policy : Text} (hp : policy = (r.resolveRequest path).policyWith age) :
    r.SentWithCare path age (sendAsset (r.served a) policy) := by
  have ho := resolveRequest_of_find? ha
  have hkey := Registry.key_of_find? ha
  have hh := headers_sendAsset (r.served a) policy
  have hm : ¬lastingWord <:+: Response.withCharset (r.served a).mimeType := by
    rw [served, MimeType.withCharset_ofPath]
    exact not_lastingWord_infix_mimeType a.key
  constructor
  case toHeadedWithCare => exact headedWithCare_of_headersOf (hp ▸ hh) hm
  case status => exact ⟨200, by simp, rfl⟩
  case root =>
    intro h
    have hroot : a.key = r.rootKey := by
      rcases h with ⟨-, h⟩ | h
      · exact hkey.trans h
      · rw [ho] at h
        cases h
    have hcache : (r.served a).cachePolicy = .noCache := by rw [served, if_pos hroot]
    rw [hh, values_cacheControl_headersOf, hp, ho, policyWith, asset?, Option.map_some, hcache]
    rfl
  case refused => exact fun h => absurd rfl h
  case found => exact fun _ _ => (mem_entries_of_find? ha _).mp rfl
  case foundRoot =>
    intro _ h
    rw [ho] at h
    cases h

theorem sentWithCare_fallback {root : Asset} (hr : r.registry.find? r.rootKey = some root)
    (ho : r.resolveRequest path = .fallback (Key.ofPath r.ns path) (servedRoot root)) :
    r.SentWithCare path age (sendAsset (servedRoot root) "no-cache") := by
  have hh := headers_sendAsset (servedRoot root) "no-cache"
  have hm : ¬lastingWord <:+: Response.withCharset MimeType.html := by decide +kernel
  have hp : (r.resolveRequest path).policyWith age = "no-cache" := by
    rw [ho]
    rfl
  constructor
  case toHeadedWithCare => exact headedWithCare_of_headersOf (hp.symm ▸ hh) hm
  case status => exact ⟨200, by simp, rfl⟩
  case root =>
    intro _
    rw [hh, values_cacheControl_headersOf]
    rfl
  case refused => exact fun h => absurd rfl h
  case found =>
    rw [ho]
    nofun
  case foundRoot => exact fun _ _ => (mem_entries_of_find? hr _).mp rfl

theorem sentWithCare_miss {reason : MissReason}
    (ho : r.resolveRequest path = .miss (Key.ofPath r.ns path) reason) :
    r.SentWithCare path age ((miss (Key.ofPath r.ns path) reason).answer noStore) := by
  have hh := headers_miss (Key.ofPath r.ns path) reason noStore
  have hm : ¬lastingWord <:+: ("text/plain; charset=utf-8" : Text) := by decide
  have hp : (r.resolveRequest path).policyWith age = noStore := by
    rw [ho]
    rfl
  have hs : ((miss (Key.ofPath r.ns path) reason).answer noStore).status ≠ .int 200 := by
    cases reason <;> nofun
  constructor
  case toHeadedWithCare => exact headedWithCare_of_headersOf (hp.symm ▸ hh) hm
  case status =>
    cases reason with
    | notFound => exact ⟨404, by simp, rfl⟩
    | bundleUnavailable => exact ⟨503, by simp, rfl⟩
  case root =>
    rw [AsksRoot, ho]
    rintro (⟨h, -⟩ | h) <;> cases h
  case refused =>
    intro _
    rw [hh, values_contentType_headersOf, values_cacheControl_headersOf]
    exact ⟨rfl, rfl⟩
  case found => exact fun h => absurd h hs
  case foundRoot => exact fun h => absurd h hs

theorem sentWithCare_answer (r : Resolver) (path age : Text) : r.SentWithCare path age
    ((r.resolveRequest path).answer ((r.resolveRequest path).policyWith age)) := by
  have hr : r.Resolves (Key.ofPath r.ns path) (r.resolveRequest path) := resolves_resolve r _ _
  generalize ho : r.resolveRequest path = o at hr
  cases hr with
  | hit found => exact sentWithCare_hit found (by rw [ho])
  | fallback found => exact sentWithCare_fallback found ho
  | miss reason => exact sentWithCare_miss ho

theorem isSendable_plain_bool (b : Bool) :
    HeaderValue.isSendable (Value.bool b).plain = true := by
  cases b <;> decide

/-- A request for a path is answered unless it is for a lasting file and the age has more digits
than can be written, and the response holds to these rules. A truth value in place of the age is
written as it is called. -/
theorem answers_with_care (r : Resolver) (path : Text) :
    (∀ maxAge : Int, IsShort maxAge.natAbs ∨ ¬ r.AsksFile path →
      ∃ response, (r.resolveRequest path).respond (.int maxAge) = .ok response ∧
        r.SentWithCare path (Text.ofInt maxAge) response) ∧
    (∀ maxAge : Int, ¬ IsShort maxAge.natAbs → r.AsksFile path →
      (r.resolveRequest path).respond (.int maxAge) = .error (overlongFailure [])) ∧
    ∀ isYes, ∃ response, (r.resolveRequest path).respond (.bool isYes) = .ok response ∧
      r.SentWithCare path (Value.bool isYes).plain response := by
  refine ⟨?answered, ?unwritten, ?truth⟩
  case answered =>
    rintro maxAge (h | h)
    · exact ⟨_, respond_int _ h, sentWithCare_answer r path _⟩
    · exact ⟨_, respond_of_ageless (mt immutable_iff_asksFile.mp h) _ _,
        sentWithCare_answer r path _⟩
  case unwritten =>
    intro maxAge h hfile
    exact respond_of_unwritten (immutable_iff_asksFile.mpr hfile) (Value.written_long h)
  case truth =>
    intro isYes
    exact ⟨_, respond_of_written _ (Value.written_bool isYes) (isSendable_plain_bool isYes),
      sentWithCare_answer r path _⟩

/-- A bundle of one script. -/
def loneScript : Resolver :=
  make ⟨[⟨"admin/app.js", ⟨#[120]⟩⟩], by simp⟩ defaultNamespace "index.html" defaultApiPrefixes

theorem asksFile_loneScript : loneScript.AsksFile "app.js" := ⟨by decide, by decide⟩

theorem not_isShort_natAbs : ¬ IsShort (leastOverlong : Int).natAbs := by
  rw [Int.natAbs_natCast]
  exact not_isShort_leastOverlong

/-- The script may be kept for a year, but not for the time that has no writing. -/
theorem answers_loneScript : IsShort (Int.natAbs 31536000) ∧ loneScript.AsksFile "app.js" ∧
    (∃ response, (loneScript.resolveRequest "app.js").respond (.int 31536000) = .ok response ∧
      response.headers.values "Cache-Control" = ["public, max-age=31536000, immutable".toList]) ∧
    (loneScript.resolveRequest "app.js").respond (.int leastOverlong) =
      .error (overlongFailure []) := by
  have hshort : IsShort (Int.natAbs 31536000) := (by decide : (8 : Nat) ≤ mostDigits)
  obtain ⟨answered, unwritten, -⟩ := answers_with_care loneScript "app.js"
  obtain ⟨response, hresponse, hcare⟩ := answered 31536000 (.inl hshort)
  exact ⟨hshort, asksFile_loneScript,
    ⟨response, hresponse, hcare.lasting.mpr asksFile_loneScript⟩,
    unwritten leastOverlong not_isShort_natAbs asksFile_loneScript⟩

/-- An age with one digit too many has no response, and a truth value in place of the age is not
sent as a number. -/
theorem not_answers_with_care :
    (¬∀ (r : Resolver) (path : Text) (maxAge : Int),
      ∃ response, (r.resolveRequest path).respond (.int maxAge) = .ok response) ∧
    ∃ response, (loneScript.resolveRequest "app.js").respond (.bool true) = .ok response ∧
      response.headers.values "Cache-Control" = ["public, max-age=True, immutable".toList] := by
  constructor
  · intro h
    obtain ⟨response, hresponse⟩ := h loneScript "app.js" leastOverlong
    rw [respond_of_unwritten (immutable_iff_asksFile.mpr asksFile_loneScript)
      (Value.written_long not_isShort_natAbs)] at hresponse
    cases hresponse
  · refine ⟨_, respond_of_written _ (Value.written_bool true) (isSendable_plain_bool true), ?_⟩
    exact (sentWithCare_answer loneScript "app.js" _).lasting.mpr asksFile_loneScript

/-! ### The root document in its two roles -/

theorem resolves_to_fallback (h : (r.resolveRequest path).isFallback = true) :
    ∃ root, r.registry.find? r.rootKey = some root ∧
      r.resolveRequest path = .fallback (Key.ofPath r.ns path) (servedRoot root) := by
  have hr : r.Resolves (Key.ofPath r.ns path) (r.resolveRequest path) := resolves_resolve r _ _
  generalize r.resolveRequest path = o at h hr
  cases hr with
  | fallback found => exact ⟨_, found, rfl⟩
  | hit found => cases h
  | miss reason => cases h

/-- The policy of the root document does not depend on an age, so it can be sent whatever the age
is. -/
theorem respond_noCache {o : Outcome} {asset : ServedAsset} (ha : o.asset? = some asset)
    (hp : asset.cachePolicy = .noCache) (maxAge : Value) :
    o.respond maxAge = .ok (o.answer "no-cache") := by
  have hpolicy : o.asset?.map ServedAsset.cachePolicy = some .noCache := by
    rw [ha, Option.map_some, hp]
  have hwith : o.policyWith [] = "no-cache" := by rw [policyWith, hpolicy]
  have hageless : o.asset?.map ServedAsset.cachePolicy ≠ some .immutable := by
    rw [hpolicy]
    decide
  rw [respond_of_ageless hageless maxAge [], hwith]

/-- In place of a route the root document is sent as it is sent under its own key, but for the type.
The type is the same if the name of the root document is one of HTML, and only then. -/
theorem same_answer_of_fallback (h : (r.resolveRequest path).isFallback = true) (maxAge : Value) :
    ∃ response own, (r.resolveRequest path).respond maxAge = .ok response ∧
      (r.resolve r.rootKey false).respond maxAge = .ok own ∧
      response.status = own.status ∧ response.body = own.body ∧
      (∃ common, response.headers = common ++ [("content-type".toList, MimeType.html)] ∧
        own.headers = common ++ [("content-type".toList, MimeType.ofPath r.rootKey)]) ∧
      (response = own ↔
        ∃ extension, Text.afterLast? '.' r.rootKey = some extension ∧
          Text.lower extension = "html") := by
  obtain ⟨root, hroot, hrequest⟩ := resolves_to_fallback h
  have hown : r.resolve r.rootKey false = .hit r.rootKey (r.served root) := by
    rw [resolve, hroot]
  have hkey := Registry.key_of_find? hroot
  have hpolicy : (r.served root).cachePolicy = .noCache := by rw [served, if_pos hkey]
  rw [hrequest, hown, respond_noCache rfl rfl, respond_noCache rfl hpolicy]
  have hheaders : (sendAsset (servedRoot root) "no-cache").headers =
      headersOf "no-cache" MimeType.html root.data := by
    rw [headers_sendAsset]
    show headersOf "no-cache" (Response.withCharset MimeType.html) root.data = _
    rw [MimeType.withCharset_html]
  have hheaders' : (sendAsset (r.served root) "no-cache").headers =
      headersOf "no-cache" (MimeType.ofPath r.rootKey) root.data := by
    rw [headers_sendAsset]
    show headersOf "no-cache" (Response.withCharset (MimeType.ofPath root.key)) root.data = _
    rw [MimeType.withCharset_ofPath, hkey]
  refine ⟨_, _, rfl, rfl, rfl, rfl, ?_, ?_⟩
  · refine ⟨[("x-content-type-options", "nosniff"), ("cache-control", "no-cache"),
      ("content-length", Text.ofNat root.data.size)], ?_, ?_⟩
    · exact hheaders
    · exact hheaders'
  · rw [← MimeType.ofPath_eq_html]
    constructor
    · intro h
      have hsame : (sendAsset (servedRoot root) "no-cache").headers =
          (sendAsset (r.served root) "no-cache").headers := congrArg Response.headers h
      have hvalues := congrArg (Headers.values · "Content-Type") (hheaders ▸ hheaders' ▸ hsame)
      rw [values_contentType_headersOf, values_contentType_headersOf, List.singleton_inj] at hvalues
      exact hvalues.symm
    · intro h
      rw [h, ← hheaders] at hheaders'
      exact congrArg (fun headers => { status := .int 200, headers, body := root.data : Response })
        hheaders'.symm

/-- A bundle whose root document has a name of plain text. -/
def textRoot : Resolver :=
  make ⟨[⟨rootKeyOf defaultNamespace "index.txt", ⟨#[120]⟩⟩], by simp⟩ defaultNamespace "index.txt"
    defaultApiPrefixes

theorem same_answer_of_textRoot :
    (textRoot.resolveRequest "dashboard").isFallback = true ∧
      ∃ response own,
        (textRoot.resolveRequest "dashboard").respond Outcome.defaultMaxAge = .ok response ∧
          (textRoot.resolve textRoot.rootKey false).respond Outcome.defaultMaxAge = .ok own ∧
          response.body = own.body := by
  have h : (textRoot.resolveRequest "dashboard").isFallback = true := by decide
  obtain ⟨response, own, hresponse, hown, -, hbody, -⟩ :=
    same_answer_of_fallback h Outcome.defaultMaxAge
  exact ⟨h, response, own, hresponse, hown, hbody⟩

/-- The root document of plain text is HTML in the place of a route, and unknown octets under its
own key. -/
theorem not_same_answer_of_fallback :
    ¬∀ (r : Resolver) (path : Text) (maxAge : Int), r.rootKey ∈ r.registry.keys →
      (r.resolveRequest path).isFallback = true →
      (r.resolveRequest path).respond (.int maxAge) =
        (r.resolve r.rootKey false).respond (.int maxAge) := by
  intro h
  have hsame := h textRoot "dashboard" 0 (by decide) (by decide)
  have hshort : IsShort (Int.natAbs 0) := (by decide : 1 ≤ mostDigits)
  rw [respond_int _ hshort, respond_int _ hshort, Except.ok.injEq] at hsame
  have hvalues := congrArg (fun response => response.headers.values "Content-Type") hsame
  revert hvalues
  decide

end Resolver

end BundleHost
