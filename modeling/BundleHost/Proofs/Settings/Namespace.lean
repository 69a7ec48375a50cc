import BundleHost.Proofs.Settings.Checked

/-! The form in which a namespace is kept. White space is dropped from the ends of the given text,
then slashes are, each of them once; what is left is the namespace without its own slash, and there
must be something left. So the namespace has no other slash at its ends. White space is left there
if it stands behind the slashes at an end of the given text, and only then. A namespace that starts
with white space does not stay the same when it is given again; any other one does. -/

namespace BundleHost.Settings

open Validation Text

def StartsBlank (t : Text) : Prop := ∃ c, t.head? = some c ∧ isBlank c = true

/-- White space comes right after slashes at the start of the text. More white space may come before
them. -/
def BlankBehindSlashes (t : Text) : Prop :=
  ∃ blanks slashes c rest, t = blanks ++ '/' :: slashes ++ c :: rest ∧
    (∀ d ∈ blanks, isBlank d = true) ∧ (∀ d ∈ slashes, isSlash d = true) ∧ isBlank c = true

def BlankBetweenSlashes (t : Text) : Prop :=
  ∃ before between after, t = before ++ '/' :: between ++ '/' :: after ∧
    ∃ c ∈ between, isBlank c = true

/-- What is left of a text, and what was dropped before and after it. -/
structure Wrapped where
  blanks : Text
  slashes : Text
  bare : Text
  slashes' : Text
  blanks' : Text
  blank : ∀ c ∈ blanks, isBlank c = true
  blank' : ∀ c ∈ blanks', isBlank c = true
  slash : ∀ c ∈ slashes, isSlash c = true
  slash' : ∀ c ∈ slashes', isSlash c = true
  stripped : IsTrimmed isBlank (slashes ++ bare ++ slashes')
  trimmed : IsTrimmed isSlash bare
  bare_ne_nil : bare ≠ []

/-! ### A text and what is left of it -/

namespace Wrapped

variable (w : Wrapped)

def text : Text := w.blanks ++ (w.slashes ++ w.bare ++ w.slashes') ++ w.blanks'

def reverse : Wrapped where
  blanks := w.blanks'.reverse
  slashes := w.slashes'.reverse
  bare := w.bare.reverse
  slashes' := w.slashes.reverse
  blanks' := w.blanks.reverse
  blank c hc := w.blank' c (List.mem_reverse.mp hc)
  blank' c hc := w.blank c (List.mem_reverse.mp hc)
  slash c hc := w.slash' c (List.mem_reverse.mp hc)
  slash' c hc := w.slash c (List.mem_reverse.mp hc)
  stripped := by simpa using w.stripped.reverse
  trimmed := w.trimmed.reverse
  bare_ne_nil := by simpa using w.bare_ne_nil

theorem text_reverse : w.reverse.text = w.text.reverse := by
  simp [text, reverse]

theorem normalNamespace?_text : normalNamespace? w.text = some (w.bare ++ ['/']) := by
  have hstrip : strip w.text = w.slashes ++ w.bare ++ w.slashes' :=
    w.stripped.trim_append w.blank w.blank'
  have htrim : trim isSlash (w.slashes ++ w.bare ++ w.slashes') = w.bare :=
    w.trimmed.trim_append w.slash w.slash'
  have hne : w.bare.isEmpty = false := by simpa using w.bare_ne_nil
  rw [normalNamespace?, hstrip, htrim]
  simp [hne]

theorem mem_text {c : Char} : c ∈ w.text ↔
    c ∈ w.blanks ∨ (c ∈ w.slashes ∨ c ∈ w.bare ∨ c ∈ w.slashes') ∨ c ∈ w.blanks' := by
  simp [text, or_assoc]

end Wrapped

theorem exists_wrapped {t ns : Text} (h : normalNamespace? t = some ns) :
    ∃ w : Wrapped, w.text = t ∧ w.bare ++ ['/'] = ns := by
  rw [normalNamespace?] at h
  split at h
  · cases h
  · next hne =>
    obtain ⟨blanks, blanks', ht, hb, hb'⟩ := exists_trim isBlank t
    obtain ⟨slashes, slashes', hs, hl, hl'⟩ := exists_trim isSlash (strip t)
    have hstripped : IsTrimmed isBlank (strip t) := isTrimmed_trim isBlank t
    have htrimmed : IsTrimmed isSlash (trim isSlash (strip t)) := isTrimmed_trim _ _
    have hbare : trim isSlash (strip t) ≠ [] := by simpa using hne
    rw [← strip] at ht
    generalize trim isSlash (strip t) = bare at *
    rw [hs] at ht hstripped
    exact ⟨⟨blanks, slashes, bare, slashes', blanks', hb, hb', hl, hl', hstripped, htrimmed, hbare⟩,
      ht.symm, Option.some.inj h⟩

theorem exists_slash {s : Text} (hs : ∀ c ∈ s, isSlash c = true) (hne : s ≠ []) :
    ∃ more, s = '/' :: more ∧ ∀ c ∈ more, isSlash c = true := by
  obtain ⟨c, more, rfl⟩ := List.exists_cons_of_ne_nil hne
  rw [List.forall_mem_cons] at hs
  obtain ⟨hc, hmore⟩ := hs
  obtain rfl : c = '/' := by simpa [isSlash] using hc
  exact ⟨more, rfl, hmore⟩

/-! ### White space at the ends -/

namespace Wrapped

variable (w : Wrapped)

/-- Behind white space and slashes at its start, the text goes on with what is left of it. -/
theorem dropWhile_text : (w.text.dropWhile isBlank).dropWhile isSlash =
    w.bare ++ (w.slashes' ++ w.blanks') := by
  have hne : w.slashes ++ w.bare ++ w.slashes' ≠ [] := by simp [w.bare_ne_nil]
  rw [text, List.append_assoc, List.dropWhile_append_of_pos w.blank,
    w.stripped.dropWhile_append hne, List.append_assoc, List.append_assoc,
    List.dropWhile_append_of_pos w.slash, w.trimmed.dropWhile_append w.bare_ne_nil]

theorem slashes_ne_nil {c : Char} (hc : w.bare.head? = some c) (hb : isBlank c = true) :
    w.slashes ≠ [] := by
  intro h
  have hfirst := w.stripped.first c (by rw [h, List.nil_append, List.head?_append, hc]; rfl)
  rw [hb] at hfirst
  cases hfirst

theorem startsBlank_iff : StartsBlank w.bare ↔ BlankBehindSlashes w.text := by
  constructor
  · rintro ⟨c, hc, hb⟩
    obtain ⟨slashes, hs, hslash⟩ := exists_slash w.slash (w.slashes_ne_nil hc hb)
    obtain ⟨rest, hr⟩ := List.head?_eq_some_iff.mp hc
    refine ⟨w.blanks, slashes, c, rest ++ (w.slashes' ++ w.blanks'), ?_, w.blank, hslash, hb⟩
    simp [text, hs, hr]
  · rintro ⟨blanks, slashes, c, rest, ht, hblank, hslash, hb⟩
    have hc : isSlash c = false := by
      rw [isSlash, beq_eq_false_iff_ne]
      rintro rfl
      rw [not_isBlank_slash] at hb
      cases hb
    have hrest : (w.text.dropWhile isBlank).dropWhile isSlash = c :: rest := by
      rw [ht, List.append_assoc, List.dropWhile_append_of_pos hblank, List.cons_append,
        List.dropWhile_cons_of_neg (by simp [not_isBlank_slash]),
        List.dropWhile_cons_of_pos (by decide), List.dropWhile_append_of_pos hslash,
        List.dropWhile_cons_of_neg (by simp [hc])]
    obtain ⟨d, bare, hbare⟩ := List.exists_cons_of_ne_nil w.bare_ne_nil
    rw [dropWhile_text, hbare, List.cons_append, List.cons.injEq] at hrest
    exact ⟨c, by rw [hbare, hrest.1]; rfl, hb⟩

/-- A namespace stays the same when it is given again, unless it starts with white space. -/
theorem normalNamespace?_again : normalNamespace? (w.bare ++ ['/']) = some (w.bare ++ ['/']) ↔
    ¬ StartsBlank w.bare := by
  constructor
  · rintro h ⟨c, hc, hb⟩
    obtain ⟨again, htext, hsame⟩ := exists_wrapped h
    have hsame' : again.bare = w.bare := List.append_cancel_right hsame
    -- the text would start with white space, then slashes, and be longer than it is by one of these
    have hslashes : again.slashes ≠ [] := again.slashes_ne_nil (hsame'.symm ▸ hc) hb
    have hblanks : again.blanks ≠ [] := by
      intro hnil
      have hhead : again.text.head? = some c := by
        rw [htext, List.head?_append, hc]
        rfl
      rw [text, hnil, List.nil_append, List.head?_append_of_ne_nil _ (by simp [hslashes])] at hhead
      have hfirst := again.stripped.first c hhead
      rw [hb] at hfirst
      cases hfirst
    have hlength := congrArg List.length htext
    simp only [text, List.length_append, hsame', List.length_singleton] at hlength
    have h₁ := List.length_pos_iff.mpr hslashes
    have h₂ := List.length_pos_iff.mpr hblanks
    omega
  · intro h
    have hstripped : IsTrimmed isBlank ([] ++ w.bare ++ ['/']) := by
      constructor
      · intro c hc
        rw [List.nil_append, List.head?_append_of_ne_nil _ w.bare_ne_nil] at hc
        exact Bool.eq_false_iff.mpr fun hb => h ⟨c, hc, hb⟩
      · intro c hc
        rw [List.getLast?_concat, Option.some.injEq] at hc
        subst hc
        exact not_isBlank_slash
    have hslash : ∀ c ∈ ['/'], isSlash c = true := List.forall_mem_singleton.mpr rfl
    have hself := normalNamespace?_text
      ⟨[], [], w.bare, ['/'], [], nofun, nofun, nofun, hslash, hstripped, w.trimmed, w.bare_ne_nil⟩
    rw [text, List.nil_append, List.nil_append, List.append_nil] at hself
    exact hself

/-- What is left has a character that is neither, or it is white space between slashes. -/
theorem proper_or_between : (∃ c ∈ w.text, isBlank c = false ∧ isSlash c = false) ∨
    BlankBetweenSlashes w.text := by
  obtain ⟨c, hc⟩ : ∃ c, w.bare.head? = some c := ⟨_, List.head?_eq_some_head w.bare_ne_nil⟩
  obtain ⟨d, hd⟩ : ∃ d, w.bare.getLast? = some d := ⟨_, List.getLast?_eq_some_getLast w.bare_ne_nil⟩
  have hcmem : c ∈ w.bare := List.mem_of_mem_head? hc
  have hdmem : d ∈ w.bare := List.mem_of_mem_getLast? hd
  have hmem : ∀ e ∈ w.bare, e ∈ w.text :=
    fun e he => w.mem_text.mpr (.inr (.inl (.inr (.inl he))))
  cases hcb : isBlank c with
  | false => exact .inl ⟨c, hmem c hcmem, hcb, w.trimmed.first c hc⟩
  | true =>
    cases hdb : isBlank d with
    | false => exact .inl ⟨d, hmem d hdmem, hdb, w.trimmed.last d hd⟩
    | true =>
      have hlast : w.reverse.bare.head? = some d := by rw [reverse, List.head?_reverse, hd]
      have hne' : w.slashes' ≠ [] := by
        have h := w.reverse.slashes_ne_nil hlast hdb
        rwa [reverse, ne_eq, List.reverse_eq_nil_iff] at h
      obtain ⟨slashes, hs, -⟩ := exists_slash w.slash (w.slashes_ne_nil hc hcb)
      obtain ⟨slashes', hs', -⟩ := exists_slash w.slash' hne'
      refine .inr ⟨w.blanks, slashes ++ w.bare, slashes' ++ w.blanks', ?_, c, ?_, hcb⟩
      · simp [text, hs, hs']
      · exact List.mem_append_right _ hcmem

end Wrapped

/-! ### What is accepted -/

theorem normalNamespace?_eq_none {t : Text} (h : normalNamespace? t = none) :
    ∀ c ∈ strip t, isSlash c = true := by
  rw [normalNamespace?] at h
  split at h
  · next he => exact trim_eq_nil.mp (List.isEmpty_iff.mp he)
  · cases h

theorem accepts_iff {t : Text} : (∃ ns, normalNamespace? t = some ns) ↔
    (∃ c ∈ t, isBlank c = false ∧ isSlash c = false) ∨ BlankBetweenSlashes t := by
  constructor
  · rintro ⟨ns, h⟩
    obtain ⟨w, rfl, -⟩ := exists_wrapped h
    exact w.proper_or_between
  · intro h
    cases hn : normalNamespace? t with
    | some ns => exact ⟨ns, rfl⟩
    | none =>
      have hall := normalNamespace?_eq_none hn
      exfalso
      rcases h with ⟨c, hc, hblank, hslash⟩ | ⟨before, between, after, rfl, c, hc, hblank⟩
      · obtain ⟨s, s', ht, hs, hs'⟩ := exists_trim isBlank t
        rw [ht, List.mem_append, List.mem_append] at hc
        rcases hc with (hc | hc) | hc
        · rw [hs c hc] at hblank
          cases hblank
        · rw [hall c hc] at hslash
          cases hslash
        · rw [hs' c hc] at hblank
          cases hblank
      · rw [strip, trim_between not_isBlank_slash not_isBlank_slash] at hall
        have hslash : isSlash c = true := hall c (by simp [hc])
        obtain rfl : c = '/' := by simpa [isSlash] using hslash
        rw [not_isBlank_slash] at hblank
        cases hblank

theorem checkNamespace_of_some {t ns : Text} (h : normalNamespace? t = some ns) :
    checkNamespace (.text t) = .valid ns := by
  simp only [checkNamespace, checkText, Checked.andThen, h]

theorem checkNamespace_of_none {t : Text} (h : normalNamespace? t = none) :
    checkNamespace (.text t) = .fail (.refused "asset_namespace must not be empty") := by
  simp only [checkNamespace, checkText, Checked.andThen, h]

theorem checkNamespace_text {t ns : Text} :
    checkNamespace (.text t) = .valid ns ↔ normalNamespace? t = some ns := by
  cases h : normalNamespace? t with
  | some found => rw [checkNamespace_of_some h, Checked.valid.injEq, Option.some.injEq]
  | none =>
    rw [checkNamespace_of_none h]
    constructor <;> intro e <;> cases e

/-- A text is accepted if it has a character that is neither white space nor a slash, or white space
between slashes. It is kept without slashes at its ends and with one slash after it. White space is
at its ends exactly if it came behind slashes in the given text, and where it is at the start, and
only there, what is kept does not stay the same when it is given again. -/
theorem keeps_form (t : Text) :
    ((∃ ns, checkNamespace (.text t) = .valid ns) ↔
      (∃ c ∈ t, isBlank c = false ∧ isSlash c = false) ∨ BlankBetweenSlashes t) ∧
    ((¬ ∃ ns, checkNamespace (.text t) = .valid ns) →
      checkNamespace (.text t) = .fail (.refused "asset_namespace must not be empty")) ∧
    ∀ ns, checkNamespace (.text t) = .valid ns → IsNamespace ns ∧
      (StartsBlank ns ↔ BlankBehindSlashes t) ∧
      (StartsBlank ns.dropLast.reverse ↔ BlankBehindSlashes t.reverse) ∧
      (checkNamespace (.text ns) = .valid ns ↔ ¬ BlankBehindSlashes t) := by
  simp only [checkNamespace_text]
  refine ⟨accepts_iff, ?refused, ?kept⟩
  case refused =>
    intro h
    have hnone : normalNamespace? t = none := by
      cases hn : normalNamespace? t with
      | some ns => exact absurd ⟨ns, hn⟩ h
      | none => rfl
    exact checkNamespace_of_none hnone
  case kept =>
    intro ns h
    obtain ⟨w, rfl, rfl⟩ := exists_wrapped h
    refine ⟨isNamespace_of_normalNamespace? h, ?start, ?finish, ?again⟩
    case start =>
      rw [← w.startsBlank_iff, StartsBlank, List.head?_append_of_ne_nil _ w.bare_ne_nil]
      rfl
    case finish =>
      rw [← w.text_reverse, ← w.reverse.startsBlank_iff, List.dropLast_concat]
      rfl
    case again => rw [w.normalNamespace?_again, w.startsBlank_iff]

/-- Without a character that is neither white space nor a slash, a text is accepted as white space
and a slash, which is refused when it is given again. -/
theorem keeps_hidden_blank : checkNamespace (.text "/ /") = .valid " /" ∧
    (¬ ∃ c ∈ ("/ /" : Text), isBlank c = false ∧ isSlash c = false) ∧
    StartsBlank " /" ∧ checkNamespace (.text " /") ≠ .valid " /" ∧
    checkNamespace (.text " /") = .fail (.refused "asset_namespace must not be empty") := by
  obtain ⟨-, -, hkept⟩ := keeps_form "/ /"
  obtain ⟨-, hrefused, -⟩ := keeps_form " /"
  have hvalid : checkNamespace (.text "/ /") = .valid " /" := rfl
  obtain ⟨-, hstart, -, hagain⟩ := hkept " /" hvalid
  have hblank : StartsBlank " /" := ⟨' ', rfl, by decide⟩
  have hall : ("/ /" : Text).all (fun c => isBlank c || isSlash c) = true := by decide
  refine ⟨hvalid, ?_, hblank, fun h => hagain.mp h (hstart.mp hblank), hrefused ?_⟩
  · rintro ⟨c, hc, hb, hs⟩
    have h := List.all_eq_true.mp hall c hc
    rw [hb, hs] at h
    cases h
  · rintro ⟨ns, h⟩
    cases h

end BundleHost.Settings
