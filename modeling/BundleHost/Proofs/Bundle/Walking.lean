import BundleHost.Bundle.Discovery
import BundleHost.Proofs.Bundle.Tree
import BundleHost.Proofs.Text.Segments

/-! Why a question to the file system fails. A walk only ends with the complaint about a long name
if it meets one, on the path that it takes or in the target of a link that it comes to, and only
with the one about a closed directory if there is one. So a question has an answer wherever the
service may go into all directories and is given paths and names of a length that the file system
can bear. The place of a bundle is only lost by a character that no path may hold, or by links that
cannot be replaced. -/

namespace BundleHost.Bundle

namespace Node

variable {root : Node}

theorem at?_concat {here : Path} {access : Access} {entries : Entries} (name : Text)
    (h : root.at? here = some (.directory access entries)) :
    root.at? (here ++ [name]) = entries.lookup name := by
  induction here generalizing root with
  | nil =>
    rw [at?, Option.some.injEq] at h
    rw [h, List.nil_append, at?]
    cases entries.lookup name <;> rfl
  | cons first rest ih =>
    cases root with
    | directory outer found =>
      rw [at?] at h
      rw [List.cons_append, at?]
      cases hl : found.lookup first with
      | none => simp [hl] at h
      | some node =>
        rw [hl] at h
        exact ih h
    | _ => simp [at?] at h

/-- The name is on the target of a link somewhere below the node. -/
def HasLinkTo (root : Node) (name : Text) : Prop :=
  ∃ place target, root.at? place = some (.link target) ∧ name ∈ Text.split '/' target

/-- What stands in the way of a path, with the complaint about it. -/
inductive Hinders (root : Node) (names : List Text) : FileError → Prop
  | longName {name : Text} (long : isTooLong name = true)
      (met : name ∈ names ∨ root.HasLinkTo name) : Hinders root names .nameTooLong
  | closed {place : Path} {access : Access} {entries : Entries}
      (found : root.at? place = some (.directory access entries)) (closed : access.enter = false) :
      Hinders root names .denied

theorem Hinders.mono {names more : List Text} {e : FileError} (h : root.Hinders names e)
    (hs : names ⊆ more) : root.Hinders more e := by
  cases h with
  | longName long met => exact .longName long (met.imp_left fun hm => hs hm)
  | closed found closed => exact .closed found closed

/-- A walk stops at a link that is there, and the names that are left were before it. -/
theorem link_of_walk {here place : Path} {names rest : List Text} {target : Text}
    (h : root.walk here names = .atLink place target rest) :
    (∃ name, root.at? (place ++ [name]) = some (.link target)) ∧ rest ⊆ names := by
  induction names generalizing here with
  | nil => simp [walk] at h
  | cons name more ih =>
    have hmore : ∀ next : Path, root.walk next more = .atLink place target rest →
        (∃ n, root.at? (place ++ [n]) = some (.link target)) ∧ rest ⊆ name :: more := by
      intro next hw
      obtain ⟨hl, hs⟩ := ih hw
      exact ⟨hl, List.subset_cons_of_subset _ hs⟩
    rw [walk] at h
    split at h
    · next access entries he =>
      split at h
      · exact hmore _ h
      · split at h
        · cases h
        · split at h
          · exact hmore _ h
          · split at h
            · exact hmore _ h
            · split at h
              · cases h
              · split at h
                · next hl =>
                  cases h
                  exact ⟨⟨name, (at?_concat name he).trans hl⟩, List.subset_cons_self ..⟩
                · exact hmore _ h
                · cases h
    · cases h
    · cases h

/-- A walk ends because there is nothing, or because something stands in its way. -/
theorem hinders_of_walk {here : Path} {names : List Text} {e : FileError}
    (h : root.walk here names = .ended e) :
    (e = .absent ∨ e = .notDirectory) ∨ root.Hinders names e := by
  induction names generalizing here with
  | nil => cases h
  | cons name rest ih =>
    have hrest : ∀ place : Path, root.walk place rest = .ended e →
        (e = .absent ∨ e = .notDirectory) ∨ root.Hinders (name :: rest) e := by
      intro place hp
      exact (ih hp).imp_right fun hh => hh.mono (List.subset_cons_self ..)
    rw [walk] at h
    split at h
    · next access entries he =>
      split at h
      · exact hrest _ h
      · split at h
        · next hclosed =>
          cases h
          exact .inr (.closed he (by simpa using hclosed))
        · split at h
          · exact hrest _ h
          · split at h
            · exact hrest _ h
            · split at h
              · next hl =>
                cases h
                exact .inr (.longName hl (.inl List.mem_cons_self))
              · split at h
                · cases h
                · exact hrest _ h
                · cases h
                  exact .inl (.inl rfl)
    · cases h
      exact .inl (.inr rfl)
    · cases h
      exact .inl (.inl rfl)

/-- A path comes to no end because there is nothing, because of too many links, or because something
stands in its way. -/
theorem hinders_of_follow {limit : Nat} {here : Path} {names : List Text} {e : FileError}
    (h : root.follow limit here names = .error e) :
    (e = .absent ∨ e = .notDirectory) ∨
      (e = .tooManyLinks ∧ ∃ place target, root.at? place = some (.link target)) ∨
        root.Hinders names e := by
  induction limit generalizing here names with
  | zero =>
    unfold follow at h
    cases hw : root.walk here names with
    | reached path => simp [hw] at h
    | ended why =>
      rw [hw] at h
      exact (hinders_of_walk (Except.error.inj h ▸ hw)).imp_right .inr
    | atLink place target rest =>
      obtain ⟨⟨link, hlink⟩, -⟩ := link_of_walk hw
      rw [hw] at h
      cases h
      exact .inr (.inl ⟨rfl, _, target, hlink⟩)
  | succ limit ih =>
    unfold follow at h
    cases hw : root.walk here names with
    | reached path => simp [hw] at h
    | ended why =>
      rw [hw] at h
      exact (hinders_of_walk (Except.error.inj h ▸ hw)).imp_right .inr
    | atLink place target rest =>
      obtain ⟨⟨link, hlink⟩, hs⟩ := link_of_walk hw
      rw [hw] at h
      refine (ih h).imp_right fun hrest => hrest.imp_right fun hh => ?_
      cases hh with
      | closed found closed => exact .closed found closed
      | longName long met =>
        refine .longName long ?_
        rcases met with hm | hm
        · rcases List.mem_append.mp hm with ht | hr
          · exact .inr ⟨_, target, hlink, ht⟩
          · exact .inl (hs hr)
        · exact .inr hm

end Node

namespace FileSystem

variable {fs : FileSystem} {w : Way} {e : FileError} {t : Text}

/-- What stands in the way of a question about a path. -/
inductive Hinders (fs : FileSystem) (w : Way) : FileError → Prop
  | longWay (long : longestPath < (Text.utf8 w.text).size) : Hinders fs w .nameTooLong
  | onTheWay {e : FileError} (h : fs.top.Hinders w.names e) : Hinders fs w e

theorem of_problem? (h : problem? w = some e) :
    (e = .zeroInName ∧ zero ∈ w.text) ∨
      (e = .nameTooLong ∧ longestPath < (Text.utf8 w.text).size) := by
  rw [problem?] at h
  split at h
  · next hz =>
    cases h
    exact .inl ⟨rfl, List.contains_iff_mem.mp hz⟩
  · split at h
    · next hl =>
      cases h
      exact .inr ⟨rfl, hl⟩
    · cases h

/-- No node is found because of the path itself, or because it comes to no end. -/
theorem find_error (h : fs.find w = .error e) :
    problem? w = some e ∨ fs.top.follow linkLimit (fs.start w) w.names = .error e := by
  rw [find] at h
  split at h
  · next hp => exact .inl (Except.error.inj h ▸ hp)
  · exact .inr (of_map_eq_error h)

theorem hinders_of_find (h : fs.find w = .error e) : isAbsence e = true ∨ fs.Hinders w e := by
  rcases find_error h with hp | hw
  · rcases of_problem? hp with ⟨rfl, -⟩ | ⟨rfl, hl⟩
    · exact .inl rfl
    · exact .inr (.longWay hl)
  · rcases Node.hinders_of_follow hw with (rfl | rfl) | ⟨rfl, -⟩ | hh
    · exact .inl rfl
    · exact .inl rfl
    · exact .inl rfl
    · exact .inr (.onTheWay hh)

theorem hinders_of_look (h : fs.look w = .error e) : fs.Hinders w e := by
  rw [look] at h
  cases hf : fs.find w with
  | ok found =>
    rw [hf] at h
    cases h
  | error why =>
    rw [hf] at h
    dsimp only at h
    split at h
    · cases h
    · next hn =>
      obtain rfl : why = e := Except.error.inj h
      exact (hinders_of_find hf).resolve_left hn

/-! ### Places -/

/-- There is a link somewhere. -/
def HasLink (fs : FileSystem) : Prop := ∃ place target, fs.top.at? place = some (.link target)

theorem linkAt_error (h : fs.linkAt w = .error e) :
    e = .zeroInName ∧ problem? w = some .zeroInName := by
  rw [linkAt] at h
  split at h
  · next hp => exact ⟨(Except.error.inj h).symm, hp⟩
  · cases h
  · split at h <;> cases h

theorem hasLink_of_linkAt (h : fs.linkAt w = .ok (some t)) : fs.HasLink := by
  rw [linkAt] at h
  split at h
  · cases h
  · cases h
  · split at h
    · next hw =>
      obtain ⟨⟨name, hn⟩, -⟩ := Node.link_of_walk hw
      exact ⟨_, _, hn⟩
    · cases h

theorem mem_text {c : Char} (h : c ∈ w.text) : c = '/' ∨ ∃ name ∈ w.names, c ∈ name := by
  rw [Way.text, List.mem_append] at h
  rcases h with h | h
  · left
    split at h
    · exact List.mem_singleton.mp h
    · cases h
  · exact (Text.mem_join h).imp_left List.mem_singleton.mp

theorem problem?_eq_zero (h : problem? w = some .zeroInName) : ∃ name ∈ w.names, zero ∈ name := by
  have hne : zero ≠ '/' := by decide
  rcases of_problem? h with ⟨-, hz⟩ | ⟨he, -⟩
  · exact (mem_text hz).resolve_left hne
  · cases he

theorem trace_error {linkAt : Way → Except FileError (Option Text)}
    {replace : Met → Way → Text → Except FileError Traced} {p : FileError → Prop}
    (hl : ∀ w e, linkAt w = .error e → p e)
    (hr : ∀ w t, linkAt w = .ok (some t) → ∀ met w e, replace met w t = .error e → p e)
    {names : List Text} {met : Met} (h : trace linkAt replace met w names = .error e) : p e := by
  induction names generalizing met w with
  | nil => cases h
  | cons name rest ih =>
    rw [trace] at h
    split at h
    · exact ih h
    · split at h
      · exact ih h
      · dsimp only at h
        split at h
        · next hlink =>
          cases h
          exact hl _ _ hlink
        · exact ih h
        · next target hlink =>
          split at h
          · exact ih h
          · cases h
          · split at h
            · next hreplace =>
              cases h
              exact hr _ _ hlink _ _ _ hreplace
            · split at h
              · exact ih h
              · cases h

theorem replace_error {room : Nat} {met : Met}
    (h : replace fs.linkAt room met w t = .error e) : e = .zeroInName ∨ e = .tooDeep := by
  induction room generalizing met w t e with
  | zero =>
    cases h
    exact .inr rfl
  | succ room ih =>
    rw [replace] at h
    exact trace_error (fun _ _ hl => .inl (linkAt_error hl).1) (fun _ _ _ _ _ _ hr => ih hr) h

/-- None of the names has the character that no path may hold. -/
def IsSound (w : Way) : Prop := ∀ name ∈ w.names, zero ∉ name

theorem IsSound.down {name : Text} (hw : IsSound w) (hn : zero ∉ name) : IsSound (w.down name) := by
  intro other hm
  rcases List.mem_append.mp hm with hm | hm
  · exact hw other hm
  · exact List.mem_singleton.mp hm ▸ hn

theorem IsSound.up (hw : IsSound w) : IsSound w.up := by
  have hdots : zero ∉ (['.', '.'] : Text) := by decide
  have hlast : ∀ name ∈ w.names.dropLast, zero ∉ name := fun name hm =>
    hw name (List.dropLast_subset _ hm)
  rw [Way.up]
  split
  · exact hlast
  · split
    · exact hw.down hdots
    · next found hfound =>
      split
      · exact hw.down (hw _ (List.mem_of_getLast? hfound))
      · exact hlast

/-- Without links the steps of a path are taken by their names, which a place consists of in the
end. -/
theorem trace_of_no_link (replace : Met → Way → Text → Except FileError Traced)
    (hn : ¬ fs.HasLink) {names : List Text} (met : Met) (hw : IsSound w)
    (hz : ∀ name ∈ names, zero ∉ name) :
    ∃ way : Way, trace fs.linkAt replace met w names = .ok { way, met } ∧ IsSound way := by
  induction names generalizing w with
  | nil => exact ⟨w, rfl, hw⟩
  | cons name rest ih =>
    obtain ⟨hname, hrest⟩ := List.forall_mem_cons.mp hz
    rw [trace]
    split
    · exact ih hw hrest
    · split
      · exact ih hw.up hrest
      · dsimp only
        have hnext : IsSound (w.down name) := hw.down hname
        cases hl : fs.linkAt (w.down name) with
        | error why =>
          obtain ⟨m, hm, hc⟩ := problem?_eq_zero (linkAt_error hl).2
          exact absurd hc (hnext m hm)
        | ok found =>
          cases found with
          | some target => exact absurd (hasLink_of_linkAt hl) hn
          | none => exact ih hnext hrest

theorem mem_of_mem_settled {names : List Text} {name : Text} (h : name ∈ settled names) :
    name ∈ names := by
  have hfold : ∀ (rest way : List Text),
      name ∈ rest.foldl (fun way n => if isIdle n then way
        else if isUp n then way.drop 1 else n :: way) way → name ∈ way ∨ name ∈ rest := by
    intro rest
    induction rest with
    | nil => exact fun way hm => .inl hm
    | cons first rest ih =>
      intro way hm
      rcases ih _ hm with hw | hr
      · dsimp only at hw
        split at hw
        · exact .inl hw
        · split at hw
          · exact .inl (List.mem_of_mem_drop hw)
          · rcases List.mem_cons.mp hw with rfl | hw
            · exact .inr List.mem_cons_self
            · exact .inl hw
      · exact .inr (List.mem_cons_of_mem _ hr)
  exact (hfold names [] (List.mem_reverse.mp h)).resolve_left nofun

/-- Only links are counted. -/
theorem hasLink_of_find (h : fs.find w = .error .tooManyLinks) : fs.HasLink := by
  rcases find_error h with hp | hw
  · rcases of_problem? hp with ⟨he, -⟩ | ⟨he, -⟩ <;> cases he
  · rcases Node.hinders_of_follow hw with (he | he) | ⟨-, hl⟩ | hh
    · cases he
    · cases he
    · exact hl
    · cases hh

theorem find_zero (h : fs.find w = .error .zeroInName) : ∃ name ∈ w.names, zero ∈ name := by
  rcases find_error h with hp | hw
  · exact problem?_eq_zero hp
  · rcases Node.hinders_of_follow hw with (he | he) | ⟨he, -⟩ | hh
    · cases he
    · cases he
    · cases he
    · cases hh

/-- Why a place is lost: because of the character in the text, or because of links. -/
inductive Loses (fs : FileSystem) (t : Text) : FileError → Prop
  | zero (held : zero ∈ t) : Loses fs t .zeroInName
  | link {e : FileError} (there : fs.HasLink)
      (kind : e = .zeroInName ∨ e = .tooDeep ∨ e = .circle) : Loses fs t e

/-- The path of a text, with all links on the way replaced. -/
def traceOf (fs : FileSystem) (t : Text) : Except FileError Traced :=
  trace fs.linkAt (FileSystem.replace fs.linkAt fs.linkRoom) []
    { fromTop := (Way.ofText t).fromTop } (Way.ofText t).names

/-- The way from the top to where another way leads by its names. -/
def fromTop (fs : FileSystem) (w : Way) : Way := ⟨true, settled (fs.start w ++ w.names)⟩

theorem of_placeOf_error (h : fs.placeOf t = .error e) :
    fs.traceOf t = .error e ∨ ∃ traced, fs.traceOf t = .ok traced ∧
      ((e = .circle ∧ fs.find (fs.fromTop traced.way) = .error .tooManyLinks) ∨
        (e = .zeroInName ∧ fs.find (fs.fromTop traced.way) = .error .zeroInName)) := by
  rw [placeOf] at h
  rcases of_bind_eq_error h with ht | ⟨traced, ht, h⟩
  · exact .inl ht
  · refine .inr ⟨traced, ht, ?_⟩
    dsimp only at h
    split at h
    · next hf =>
      cases h
      exact .inl ⟨rfl, hf⟩
    · next hf =>
      cases h
      exact .inr ⟨rfl, hf⟩
    · cases h

theorem traceOf_error (h : fs.traceOf t = .error e) :
    e = .zeroInName ∨ (fs.HasLink ∧ e = .tooDeep) :=
  trace_error (p := fun e => e = .zeroInName ∨ (fs.HasLink ∧ e = .tooDeep))
    (fun _ _ hl => .inl (linkAt_error hl).1)
    (fun _ _ hl _ _ _ hr => (replace_error hr).imp_right fun ht => ⟨hasLink_of_linkAt hl, ht⟩) h

/-- Without links and without the character in a text, it is not on the way to a place either. -/
theorem isSound_fromTop (hhere : ∀ name ∈ fs.here, zero ∉ name) (hl : ¬ fs.HasLink)
    (hz : zero ∉ t) :
    ∃ traced, fs.traceOf t = .ok traced ∧ IsSound (fs.fromTop traced.way) := by
  have hnames : ∀ name ∈ (Way.ofText t).names, zero ∉ name := fun name hn hc =>
    hz (Text.subset_of_mem_split (List.mem_filter.mp hn).1 hc)
  obtain ⟨way, hway, hfree⟩ := trace_of_no_link (w := { fromTop := (Way.ofText t).fromTop })
    (FileSystem.replace fs.linkAt fs.linkRoom) hl [] nofun hnames
  refine ⟨_, hway, fun name hn => ?_⟩
  rcases List.mem_append.mp (mem_of_mem_settled hn) with hm | hm
  · rw [start] at hm
    split at hm
    · cases hm
    · exact hhere name hm
  · exact hfree name hm

theorem hasLink_or_zero_mem (hhere : ∀ name ∈ fs.here, zero ∉ name)
    (h : fs.placeOf t = .error .zeroInName) : fs.HasLink ∨ zero ∈ t := by
  by_cases hl : fs.HasLink
  · exact .inl hl
  by_cases hz : zero ∈ t
  · exact .inr hz
  obtain ⟨traced, ht, hfree⟩ := isSound_fromTop hhere hl hz
  rcases of_placeOf_error h with he | ⟨_, ho, ⟨he, -⟩ | ⟨-, hf⟩⟩
  · rw [ht] at he
    cases he
  · cases he
  · obtain rfl := Except.ok.inj (ht.symm.trans ho)
    obtain ⟨name, hn, hc⟩ := find_zero hf
    exact absurd hc (hfree name hn)

theorem placeOf_error (hhere : ∀ name ∈ fs.here, zero ∉ name) (h : fs.placeOf t = .error e) :
    fs.Loses t e := by
  have hkind : e = .zeroInName ∨ (fs.HasLink ∧ (e = .tooDeep ∨ e = .circle)) := by
    rcases of_placeOf_error h with he | ⟨traced, -, ⟨rfl, hf⟩ | ⟨rfl, -⟩⟩
    · exact (traceOf_error he).imp_right fun hl => ⟨hl.1, .inl hl.2⟩
    · exact .inr ⟨hasLink_of_find hf, .inr rfl⟩
    · exact .inl rfl
  rcases hkind with rfl | ⟨hl, he⟩
  · rcases hasLink_or_zero_mem hhere h with hl | hz
    · exact .link hl (.inl rfl)
    · exact .zero hz
  · exact .link hl (.inr he)

end FileSystem

namespace Directory

variable {d : Directory} {e : FileError}

theorem isPresent_of_mem_paths {path : Path} (h : path ∈ d.paths) : d.isPresent = .ok true := by
  obtain ⟨node, hr, hp⟩ := exists_root_of_mem_paths h
  rw [isPresent, FileSystem.isDirectory, root?_eq_some.mp hr]
  cases node with
  | directory access entries => rfl
  | _ => simp [Node.paths] at hp

/-- What keeps the files of a directory from being told: something that stands in the way of the
directory or of one of its entries, or a directory that is deeper than the program can go. -/
inductive Hindered (d : Directory) : FileError → Prop
  | asking {path : Path} {e : FileError} (listed : path = [] ∨ path ∈ d.paths)
      (hinders : d.system.Hinders (d.wayTo path) e) : Hindered d e
  | tooDeep {path : Path} (listed : path ∈ d.paths) (goesOn : d.goesOn path = true)
      (deep : d.system.walkRoom < path.length) : Hindered d .tooDeep

theorem hinders_of_isPresent (h : d.isPresent = .error e) :
    d.system.Hinders (d.wayTo []) e := by
  rw [isPresent, FileSystem.isDirectory] at h
  exact FileSystem.hinders_of_look (of_map_eq_error h)

theorem hinders_of_refusal? {path : Path} (h : d.refusal? path = some e) :
    d.system.Hinders (d.wayTo path) e := by
  rw [refusal?] at h
  split at h
  · cases h
  · next why hf =>
    rw [fileAt, FileSystem.fileAt] at hf
    exact Option.some.inj h ▸ FileSystem.hinders_of_look (of_map_eq_error hf)

theorem hindered_of_listingFailure? (h : d.listingFailure? = some e) : d.Hindered e := by
  rw [listingFailure?] at h
  split at h
  · next why hp =>
    exact .asking (.inl rfl) (hinders_of_isPresent (Option.some.inj h ▸ hp))
  · obtain ⟨path, hm, hp⟩ := List.exists_of_findSome?_eq_some h
    rw [obstacle?] at hp
    split at hp
    · next hgoes =>
      split at hp
      · next hdeep =>
        cases hp
        rcases List.mem_cons.mp hm with rfl | hm
        · exact absurd hdeep (Nat.not_lt_zero _)
        · exact .tooDeep hm hgoes hdeep
      · split at hp
        · next hlong =>
          cases hp
          exact .asking (List.mem_cons.mp hm) (.longWay hlong)
        · cases hp
    · cases hp

/-- The files can be told if the directories can be listed and all questions have an answer. -/
theorem failure?_eq_none :
    d.failure? = none ↔ d.listingFailure? = none ∧ ∀ path ∈ d.paths, d.refusal? path = none := by
  rw [failure?]
  cases d.listingFailure? with
  | some e => exact iff_of_false nofun nofun
  | none =>
    rw [List.findSome?_eq_none_iff]
    simp

theorem failure?_eq_some (h : d.failure? = some e) :
    d.listingFailure? = some e ∨ ∃ path ∈ d.paths, d.refusal? path = some e := by
  rw [failure?] at h
  split at h
  · next hl => exact .inl (hl.trans h)
  · obtain ⟨path, hm, hp⟩ := List.exists_of_findSome?_eq_some h
    exact .inr ⟨path, List.mem_mergeSort.mp hm, hp⟩

theorem hindered_of_failure? (h : d.failure? = some e) : d.Hindered e := by
  rcases failure?_eq_some h with hl | ⟨path, hm, hp⟩
  · exact hindered_of_listingFailure? hl
  · exact .asking (.inr hm) (hinders_of_refusal? hp)

theorem discovered_of_failure? (h : d.failure? = some e) (s : Selection) :
    d.discovered s = .error e := by
  rw [discovered, h]

theorem discovered_of_answered (h : d.failure? = none) (s : Selection) :
    d.discovered s = .ok (d.discover s) := by
  rw [discovered, h]

end Directory

/-- Why the files at the place that a text names cannot be told. -/
inductive FileSystem.Hindered (fs : FileSystem) (t : Text) : FileError → Prop
  | place {e : FileError} (loses : fs.Loses t e) : Hindered fs t e
  | directory {place : Path} {e : FileError} (found : fs.placeOf t = .ok place)
      (hindered : Directory.Hindered ⟨fs, place⟩ e) : Hindered fs t e

namespace FileSystem

variable {fs : FileSystem} {t : Text} {d : Directory} {isPresent : Bool} {e : FileError}

theorem of_opened_ok (h : fs.opened t = .ok (d, isPresent)) :
    d.system = fs ∧ fs.placeOf t = .ok d.place ∧ d.isPresent = .ok isPresent := by
  rw [opened] at h
  obtain ⟨place, hp, h⟩ := of_bind_eq_ok h
  obtain ⟨found, hd, h⟩ := of_bind_eq_ok h
  cases h
  exact ⟨rfl, hp, hd⟩

theorem hindered_of_opened (hhere : ∀ name ∈ fs.here, zero ∉ name) (h : fs.opened t = .error e) :
    fs.Hindered t e := by
  rw [opened] at h
  rcases of_bind_eq_error h with hp | ⟨place, hp, h⟩
  · exact .place (placeOf_error hhere hp)
  · rcases of_bind_eq_error h with hd | ⟨_, -, h⟩
    · exact .directory hp (.asking (.inl rfl) (Directory.hinders_of_isPresent hd))
    · cases h

theorem hindered_of_failure? (h : fs.opened t = .ok (d, isPresent)) (hf : d.failure? = some e) :
    fs.Hindered t e := by
  obtain ⟨rfl, hp, -⟩ := of_opened_ok h
  exact .directory hp (Directory.hindered_of_failure? hf)

end FileSystem
end BundleHost.Bundle
