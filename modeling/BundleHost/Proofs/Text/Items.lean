import BundleHost.Proofs.Text.Segments
import BundleHost.Proofs.Text.Trimming
import BundleHost.Text.Blank
import Mathlib.Data.List.Forall2

/-! Lists that are written as one text, as the settings have them. Between two commas stands an item
with white space around it, or white space alone. Every text is a list of items in this sense, of
one list only, and that is the list which is read from it. So items can be written with white space
around them at will, and a comma between two texts puts their lists together. -/

namespace BundleHost.Text

variable {item piece s t : Text} {items pieces : List Text}

/-- What can be an item of a list. -/
structure IsItem (t : Text) : Prop where
  ne_nil : t ≠ []
  trimmed : IsTrimmed isBlank t
  comma_not_mem : ',' ∉ t

/-- The piece is the item with white space around it. -/
def IsPadded (item piece : Text) : Prop :=
  ∃ s s', piece = s ++ item ++ s' ∧ (∀ c ∈ s, isBlank c = true) ∧ ∀ c ∈ s', isBlank c = true

/-- The items that are written in a text. -/
inductive Lists : Text → List Text → Prop
  | blank {s : Text} : (∀ c ∈ s, isBlank c = true) → Lists s []
  | item {piece item : Text} : IsItem item → IsPadded item piece → Lists piece [item]
  | comma {a b : Text} {xs ys : List Text} :
      Lists a xs → Lists b ys → Lists (a ++ ',' :: b) (xs ++ ys)

/-! ### Items and pieces -/

theorem isItem_iff : IsItem t ↔ t ≠ [] ∧ strip t = t ∧ ',' ∉ t := by
  constructor
  · rintro ⟨hne, ht, hc⟩
    exact ⟨hne, isTrimmed_iff.mp ht, hc⟩
  · rintro ⟨hne, ht, hc⟩
    exact ⟨hne, isTrimmed_iff.mpr ht, hc⟩

instance (t : Text) : Decidable (IsItem t) := decidable_of_iff _ isItem_iff.symm

theorem isPadded_self (item : Text) : IsPadded item item := ⟨[], [], by simp, nofun, nofun⟩

theorem isPadded_strip (t : Text) : IsPadded (strip t) t := exists_trim isBlank t

theorem comma_not_mem_of_blank (h : ∀ c ∈ s, isBlank c = true) : ',' ∉ s := by
  intro hm
  exact absurd (h ',' hm) (by decide)

namespace IsPadded

theorem strip_eq (h : IsPadded item piece) (ht : IsTrimmed isBlank item) : strip piece = item := by
  obtain ⟨s, s', rfl, hs, hs'⟩ := h
  exact ht.trim_append hs hs'

theorem comma_mem_iff (h : IsPadded item piece) : ',' ∈ piece ↔ ',' ∈ item := by
  obtain ⟨s, s', rfl, hs, hs'⟩ := h
  simp [comma_not_mem_of_blank hs, comma_not_mem_of_blank hs']

end IsPadded

/-- A piece without commas has an item in it, or white space only. -/
theorem isItem_strip (hc : ',' ∉ piece) (hne : strip piece ≠ []) : IsItem (strip piece) where
  ne_nil := hne
  trimmed := isTrimmed_trim isBlank piece
  comma_not_mem := fun hm => hc ((isPadded_strip piece).comma_mem_iff.mpr hm)

/-! ### What is read -/

theorem commaList_of_not_mem (h : ',' ∉ piece) :
    commaList piece = if strip piece = [] then [] else [strip piece] := by
  rw [commaList, split_of_not_mem h]
  by_cases hs : strip piece = [] <;> simp [hs]

theorem commaList_of_blank (h : ∀ c ∈ s, isBlank c = true) : commaList s = [] := by
  have hs : strip s = [] := trim_eq_nil.mpr h
  rw [commaList_of_not_mem (comma_not_mem_of_blank h), if_pos hs]

theorem commaList_of_isPadded (hi : IsItem item) (h : IsPadded item piece) :
    commaList piece = [item] := by
  have hc : ',' ∉ piece := fun hm => hi.comma_not_mem (h.comma_mem_iff.mp hm)
  rw [commaList_of_not_mem hc, h.strip_eq hi.trimmed, if_neg hi.ne_nil]

/-- A comma between two texts puts their lists together. -/
theorem commaList_append_cons (a b : Text) :
    commaList (a ++ ',' :: b) = commaList a ++ commaList b := by
  simp only [commaList, split_append_cons, List.map_append, List.filter_append]

/-! ### What is written -/

namespace Lists

theorem forall_isItem (h : Lists t items) : ∀ item ∈ items, IsItem item := by
  induction h with
  | blank => nofun
  | item hi => exact List.forall_mem_singleton.mpr hi
  | comma _ _ iha ihb => exact List.forall_mem_append.mpr ⟨iha, ihb⟩

theorem commaList_eq (h : Lists t items) : commaList t = items := by
  induction h with
  | blank hs => exact commaList_of_blank hs
  | item hi hp => exact commaList_of_isPadded hi hp
  | comma _ _ iha ihb => rw [commaList_append_cons, iha, ihb]

/-- Items that are joined, with white space around each, are written in the text. -/
theorem of_forall₂ (hi : ∀ item ∈ items, IsItem item) (h : List.Forall₂ IsPadded items pieces) :
    Lists (join [','] pieces) items := by
  induction h with
  | nil => exact .blank nofun
  | @cons item piece items pieces hp h ih =>
    rw [List.forall_mem_cons] at hi
    have hfirst : Lists piece [item] := .item hi.1 hp
    -- a comma follows each piece but the last one
    by_cases hne : pieces = []
    · subst hne
      rw [List.forall₂_nil_right_iff.mp h]
      exact hfirst
    · rw [join_cons piece hne]
      exact hfirst.comma (ih hi.2)

end Lists

/-- In each text there is written what is read from it. -/
theorem lists_commaList (t : Text) : Lists t (commaList t) := by
  induction t using separated_induction ',' with
  | piece t hc =>
    rw [commaList_of_not_mem hc]
    split
    · next hs => exact .blank (trim_eq_nil.mp hs)
    · next hs => exact .item (isItem_strip hc hs) (isPadded_strip t)
  | separator a b iha ihb =>
    rw [commaList_append_cons]
    exact iha.comma ihb

theorem commaList_eq_iff : commaList t = items ↔ Lists t items := by
  constructor
  · rintro rfl
    exact lists_commaList t
  · exact Lists.commaList_eq

instance (t : Text) (items : List Text) : Decidable (Lists t items) :=
  decidable_of_iff _ commaList_eq_iff

example : Lists "api/, rest/ ," ["api/", "rest/"] := by decide

/-- From a text are read the items that are written in it, and nothing else. A comma between two
texts puts their lists together. Any list of items is read from its items when they are joined, with
white space around them or without, and so the list that was read from a text is read again. -/
theorem commaList_recovers_items :
    (∀ t items, commaList t = items ↔ Lists t items) ∧
    (∀ t, ∀ item ∈ commaList t, IsItem item) ∧
    (∀ t, commaList (join [','] (commaList t)) = commaList t ∧
      ∀ pieces, List.Forall₂ IsPadded (commaList t) pieces →
        commaList (join [','] pieces) = commaList t) ∧
    (∀ a b, commaList (a ++ ',' :: b) = commaList a ++ commaList b) ∧
    ∀ items, (∀ item ∈ items, IsItem item) →
      commaList (join [','] items) = items ∧
      ∀ pieces, List.Forall₂ IsPadded items pieces → commaList (join [','] pieces) = items := by
  have hitems : ∀ t, ∀ item ∈ commaList t, IsItem item := fun t => (lists_commaList t).forall_isItem
  have hpadded : ∀ items, (∀ item ∈ items, IsItem item) →
      ∀ pieces, List.Forall₂ IsPadded items pieces → commaList (join [','] pieces) = items :=
    fun items hi pieces h => (Lists.of_forall₂ hi h).commaList_eq
  have hjoined : ∀ items, (∀ item ∈ items, IsItem item) → commaList (join [','] items) = items :=
    fun items hi => hpadded items hi items (List.forall₂_same.mpr fun item _ => isPadded_self item)
  refine ⟨fun t items => commaList_eq_iff, hitems, ?again, commaList_append_cons, ?back⟩
  case again =>
    intro t
    exact ⟨hjoined _ (hitems t), hpadded _ (hitems t)⟩
  case back =>
    intro items hi
    exact ⟨hjoined items hi, hpadded items hi⟩

def twoPrefixes : List Text := ["api", "rest/"]

/-- The prefixes are read from a text that has blank items behind them, from their joined text, and
from one with other white space in it. -/
theorem commaList_recovers_prefixes :
    commaList "api, rest/ ,," = twoPrefixes ∧ Lists "api, rest/ ,," twoPrefixes ∧
    (∀ item ∈ twoPrefixes, IsItem item) ∧ commaList "api,rest/" = twoPrefixes ∧
    List.Forall₂ IsPadded twoPrefixes ["api\t", " rest/"] ∧
    commaList "api\t, rest/" = twoPrefixes := by
  obtain ⟨hwritten, -, -, -, hback⟩ := commaList_recovers_items
  have hread : commaList "api, rest/ ,," = twoPrefixes := by decide
  have hitems : ∀ item ∈ twoPrefixes, IsItem item := by decide
  have htab : IsPadded "api" "api\t" :=
    ⟨[], ['\t'], rfl, nofun, List.forall_mem_singleton.mpr (by decide)⟩
  have hspace : IsPadded "rest/" " rest/" :=
    ⟨[' '], [], rfl, List.forall_mem_singleton.mpr (by decide), nofun⟩
  have hpadded : List.Forall₂ IsPadded twoPrefixes ["api\t", " rest/"] :=
    .cons htab (.cons hspace .nil)
  obtain ⟨hjoined, hpieces⟩ := hback _ hitems
  exact ⟨hread, (hwritten _ _).mp hread, hitems, hjoined, hpadded, hpieces _ hpadded⟩

end BundleHost.Text
