import BundleHost.Proofs.Bundle.Loading
import BundleHost.Proofs.Text.Order

/-! Discovery does not depend on the order in which a file system lists its entries. Two file
systems hold the same tree if the same stands at every path. Questions about paths then have the
same answers, and listing well-formed trees shows the same paths. Sorted name by name these are one
list, in which every path is strictly before the next ones, so that the same files are discovered in
the same order, and loading gives the same registry or the same failure, and the same log. Only
where more than one directory cannot be gone into does it depend on the order which one is found
first. -/

namespace BundleHost.Bundle

/-! ### The order of paths -/

/-- The strict order of a dictionary, by names. -/
def Path.Precedes (p q : Path) : Prop := List.Lex Text.Precedes p q

/-- What is in a directory comes before what is next to it, though not as it is written. -/
example : Path.Precedes [['a'], ['b']] [['a', '-', 'b']] ∧
    Text.Precedes (Path.relative [['a', '-', 'b']]) (Path.relative [['a'], ['b']]) :=
  ⟨.rel (.cons .nil), .cons (.rel (by decide))⟩

theorem Path.isStrictOrder_names : Text.IsStrictOrder fun a b : Text => Text.le a b && a != b where
  irrefl a := by simp
  trans := by
    intro a b c h h'
    rw [Bool.and_eq_true, bne_iff_ne] at h h' ⊢
    refine ⟨Text.isStrictOrder_toNat.dictionaryLe_trans h.1 h'.1, ?_⟩
    rintro rfl
    exact h.2 (Text.isStrictOrder_toNat.dictionaryLe_antisymm h.1 h'.1)
  connected := by
    intro a b
    by_cases hab : a = b
    · exact .inr (.inl hab)
    · rcases Text.isStrictOrder_toNat.dictionaryLe_total a b with h | h
      · left
        rw [Bool.and_eq_true, bne_iff_ne]
        exact ⟨h, hab⟩
      · right
        right
        rw [Bool.and_eq_true, bne_iff_ne]
        exact ⟨h, Ne.symm hab⟩

theorem Path.precedes_of_lex {p q : Path}
    (h : List.Lex (fun a b : Text => (Text.le a b && a != b) = true) p q) : p.Precedes q := by
  refine h.imp (fun a b hab => ?_) p q
  rw [Bool.and_eq_true, bne_iff_ne] at hab
  exact Text.precedes_of_lex (Text.lex_of_dictionaryLe hab.1 hab.2)

/-! ### The same tree -/

/-- What stands at a place, apart from what is below it. -/
inductive Kind
  | file (data : ByteArray)
  | directory (access : Access)
  | link (target : Text)

namespace Node

variable {n n' : Node}

def kind : Node → Kind
  | .file data => .file data
  | .directory access _ => .directory access
  | .link target => .link target

/-- The same stands at every path. -/
def Agrees (n n' : Node) : Prop := ∀ path, (n.at? path).map kind = (n'.at? path).map kind

theorem Agrees.refl (n : Node) : n.Agrees n := fun _ => rfl

theorem Agrees.trans {n'' : Node} (h : n.Agrees n') (h' : n'.Agrees n'') : n.Agrees n'' :=
  fun path => (h path).trans (h' path)

theorem eq_or_directories {found found' : Option Node} (h : found.map kind = found'.map kind) :
    found = found' ∨ ∃ access es es',
      found = some (.directory access es) ∧ found' = some (.directory access es') := by
  cases found with
  | none =>
    cases found' with
    | none => exact .inl rfl
    | some node' => cases h
  | some node =>
    cases found' with
    | none => cases h
    | some node' =>
      have hkind : node.kind = node'.kind := Option.some.inj h
      cases node <;> cases node' <;> simp_all [kind]

theorem Agrees.at? (h : n.Agrees n') (path : Path) :
    Option.Rel Agrees (n.at? path) (n'.at? path) := by
  have hat : ∀ (m : Node) (p q : Path),
      m.at? (p ++ q) = (m.at? p).bind fun found => found.at? q := by
    intro m p q
    induction p generalizing m with
    | nil => rfl
    | cons name rest ih =>
      cases m with
      | directory access entries =>
        rw [List.cons_append, Node.at?, Node.at?, Option.bind_assoc]
        exact Option.bind_congr fun found _ => ih found
      | _ => rfl
  have hkind := h path
  cases hm : n.at? path with
  | none =>
    cases hm' : n'.at? path with
    | none => exact .none
    | some m' => simp [hm, hm'] at hkind
  | some m =>
    cases hm' : n'.at? path with
    | none => simp [hm, hm'] at hkind
    | some m' =>
      refine .some fun rest => ?_
      have hrest := h (path ++ rest)
      rw [hat, hat, hm, hm'] at hrest
      exact hrest

theorem Agrees.cons (h : n.Agrees n') {access : Access} {es es' : Entries}
    (hes : (directory access es).Agrees (directory access es')) (name : Text) :
    (directory access ((name, n) :: es)).Agrees (directory access ((name, n') :: es')) := by
  intro path
  cases path with
  | nil => rfl
  | cons first rest =>
    have hrest := hes (first :: rest)
    rw [Node.at?, Node.at?] at hrest
    rw [Node.at?, Node.at?, List.lookup_cons, List.lookup_cons]
    cases first == name with
    | true => exact h rest
    | false => exact hrest

/-- Among different names, the order of the entries makes no difference to a look-up. -/
theorem lookup_eq_of_perm {es es' : Entries} (h : es.Perm es') (hn : (es.map Prod.fst).Nodup)
    (name : Text) : es.lookup name = es'.lookup name := by
  induction h with
  | nil => rfl
  | cons entry _ ih =>
    rw [List.lookup_cons, List.lookup_cons, ih (List.nodup_cons.mp hn).2]
  | swap a b rest =>
    obtain ⟨first, node⟩ := a
    obtain ⟨second, node'⟩ := b
    have hne : first ≠ second := by
      rintro rfl
      exact (List.nodup_cons.mp hn).1 (List.mem_cons_self ..)
    rw [List.lookup_cons, List.lookup_cons, List.lookup_cons, List.lookup_cons]
    by_cases hf : name = first
    · have hs : (name == second) = false := beq_eq_false_iff_ne.mpr (hf ▸ hne)
      rw [hs]
    · have hf' : (name == first) = false := beq_eq_false_iff_ne.mpr hf
      rw [hf']
  | trans h₁ _ ih₁ ih₂ => exact (ih₁ hn).trans (ih₂ ((h₁.map _).nodup_iff.mp hn))

/-- A directory may list its entries in any order. -/
theorem agrees_of_perm (access : Access) {es es' : Entries} (h : es.Perm es')
    (hn : (es.map Prod.fst).Nodup) :
    (directory access es).Agrees (directory access es') := by
  intro path
  cases path with
  | nil => rfl
  | cons name rest => rw [Node.at?, Node.at?, lookup_eq_of_perm h hn]

/-! ### Questions about paths -/

theorem Agrees.walk_eq (h : n.Agrees n') (here : Path) (names : List Text) :
    n.walk here names = n'.walk here names := by
  induction names generalizing here with
  | nil => rfl
  | cons name rest ih =>
    rw [walk, walk]
    rcases eq_or_directories (h here) with he | ⟨access, es, es', he, he'⟩
    · rw [he]
      simp only [ih]
    · have hname : (es.lookup name).map kind = (es'.lookup name).map kind := by
        rw [← at?_concat name he, ← at?_concat name he']
        exact h _
      rw [he, he']
      rcases eq_or_directories hname with hl | ⟨_, sub, sub', hl, hl'⟩
      · simp only [hl, ih]
      · simp only [hl, hl', ih]

theorem Agrees.follow_eq (h : n.Agrees n') (limit : Nat) (here : Path) (names : List Text) :
    n.follow limit here names = n'.follow limit here names := by
  induction limit generalizing here names with
  | zero =>
    unfold follow
    rw [h.walk_eq]
  | succ limit ih =>
    unfold follow
    rw [h.walk_eq]
    cases n'.walk here names with
    | atLink place target rest => exact ih _ _
    | _ => rfl

theorem Agrees.shows_eq (h : n.Agrees n') (path : Path) : n.shows path = n'.shows path := by
  induction path generalizing n n' with
  | nil => rw [shows, shows]
  | cons name rest ih =>
    rcases eq_or_directories (h []) with he | ⟨access, es, es', he, he'⟩
    · rw [Node.at?, Node.at?, Option.some.injEq] at he
      rw [he]
    · obtain rfl := Option.some.inj he
      obtain rfl := Option.some.inj he'
      cases rest with
      | nil => rw [shows, shows]
      | cons next more =>
        have hentry := h.at? [name]
        rw [Node.at?, Node.at?] at hentry
        rw [shows, shows]
        cases hl : es.lookup name with
        | none =>
          cases hl' : es'.lookup name with
          | none => rfl
          | some m' => simp [hl, hl', Node.at?] at hentry
        | some m =>
          cases hl' : es'.lookup name with
          | none => simp [hl, hl', Node.at?] at hentry
          | some m' =>
            simp only [hl, hl', Option.bind_some, Node.at?] at hentry
            cases hentry with
            | some hagrees => rw [Option.any_some, Option.any_some, ih hagrees]

/-! ### The paths of a tree -/

mutual

/-- The paths of a tree lead to its nodes, and all of them do. -/
theorem mem_paths : ∀ {node : Node} {path : Path}, node.WellFormed →
    (path ∈ node.paths ↔ path ≠ [] ∧ (node.at? path).isSome = true)
  | .directory access _, _, hw => by
    rw [Node.WellFormed] at hw
    rw [Node.paths]
    exact mem_entriesPaths access hw
  | .file _, path, _ => by cases path <;> simp [Node.paths, Node.at?]
  | .link _, path, _ => by cases path <;> simp [Node.paths, Node.at?]

theorem mem_entriesPaths : ∀ {entries : List (Text × Node)} {path : Path} (access : Access),
    entriesWellFormed entries →
      (path ∈ entriesPaths entries ↔
        path ≠ [] ∧ ((directory access entries).at? path).isSome = true)
  | [], path, _, _ => by cases path <;> simp [entriesPaths, Node.at?]
  | (name, node) :: rest, path, access, hw => by
    rw [entriesWellFormed] at hw
    obtain ⟨-, hd, hnode, hrest⟩ := hw
    cases path with
    | nil => exact iff_of_false (fun h => ne_nil_of_mem_entriesPaths h rfl) fun h => h.1 rfl
    | cons first tail =>
      have hbelow : tail ∈ node.paths ↔ tail ≠ [] ∧ (node.at? tail).isSome = true :=
        mem_paths hnode
      have hnext : first :: tail ∈ entriesPaths rest ↔ first :: tail ≠ [] ∧
          ((directory access rest).at? (first :: tail)).isSome = true :=
        mem_entriesPaths access hrest
      rw [Node.at?] at hnext
      rw [entriesPaths, List.mem_append, List.mem_cons, List.mem_map, Node.at?, List.lookup_cons]
      by_cases hf : first = name
      · subst hf
        -- no other entry has the name
        have hnot : first :: tail ∉ entriesPaths rest := by
          intro hm
          obtain ⟨entry, he, _, hp⟩ := exists_of_mem_entriesPaths hm
          exact hd entry he (List.cons.inj hp).1.symm
        cases tail with
        | nil => simp [Node.at?]
        | cons next more => simpa [hnot] using hbelow
      · have hne : (first == name) = false := beq_eq_false_iff_ne.mpr hf
        simpa [hne, hf, Ne.symm hf] using hnext

end

end Node

/-! ### Two listings of one file system -/

namespace FileSystem

variable {fs fs' : FileSystem} {w : Way}

/-- The same file system, as it may list its entries at another time. -/
structure SameTree (fs fs' : FileSystem) : Prop where
  top : fs.top.Agrees fs'.top
  here : fs'.here = fs.here
  unreadable : fs'.unreadable = fs.unreadable
  walkRoom : fs'.walkRoom = fs.walkRoom
  linkRoom : fs'.linkRoom = fs.linkRoom

theorem SameTree.start_eq (h : fs.SameTree fs') (w : Way) : fs'.start w = fs.start w := by
  rw [start, start, h.here]

theorem SameTree.find (h : fs.SameTree fs') (w : Way) :
    (∃ e, fs.find w = .error e ∧ fs'.find w = .error e) ∨
      ∃ found found', fs.find w = .ok found ∧ fs'.find w = .ok found' ∧
        Option.Rel Node.Agrees found found' := by
  rw [FileSystem.find, FileSystem.find, h.start_eq, ← h.top.follow_eq]
  cases problem? w with
  | some e => exact .inl ⟨e, rfl, rfl⟩
  | none =>
    cases fs.top.follow linkLimit (fs.start w) w.names with
    | error e => exact .inl ⟨e, rfl, rfl⟩
    | ok path => exact .inr ⟨_, _, rfl, rfl, h.top.at? path⟩

theorem SameTree.look (h : fs.SameTree fs') (w : Way) :
    (∃ e, fs.look w = .error e ∧ fs'.look w = .error e) ∨
      ∃ found found', fs.look w = .ok found ∧ fs'.look w = .ok found' ∧
        Option.Rel Node.Agrees found found' := by
  rw [FileSystem.look, FileSystem.look]
  rcases h.find w with ⟨e, he, he'⟩ | ⟨found, found', hf, hf', hr⟩
  · rw [he, he']
    dsimp only
    split
    · exact .inr ⟨none, none, rfl, rfl, .none⟩
    · exact .inl ⟨e, rfl, rfl⟩
  · rw [hf, hf']
    exact .inr ⟨found, found', rfl, rfl, hr⟩

theorem cases_of_rel {found found' : Option Node} (h : Option.Rel Node.Agrees found found') :
    found = found' ∨ ∃ access es es',
      found = some (.directory access es) ∧ found' = some (.directory access es') := by
  cases h with
  | none => exact .inl rfl
  | some hagrees =>
    have hkind := hagrees []
    rw [Node.at?, Node.at?] at hkind
    exact Node.eq_or_directories hkind

/-- What does not depend on the entries of a directory is the same of every listing. -/
theorem SameTree.map_look_eq {α : Type} (h : fs.SameTree fs') (w : Way) {f : Option Node → α}
    (hf : ∀ access es es', f (some (.directory access es)) = f (some (.directory access es'))) :
    (fs'.look w).map f = (fs.look w).map f := by
  rcases h.look w with ⟨e, he, he'⟩ | ⟨found, found', hl, hl', hr⟩
  · rw [he, he']
  · rw [hl, hl']
    rcases cases_of_rel hr with rfl | ⟨access, es, es', rfl, rfl⟩
    · rfl
    · exact congrArg Except.ok (hf access es' es)

theorem SameTree.fileAt_eq (h : fs.SameTree fs') (w : Way) : fs'.fileAt w = fs.fileAt w :=
  h.map_look_eq w fun _ _ _ => rfl

theorem SameTree.isDirectory_eq (h : fs.SameTree fs') (w : Way) :
    fs'.isDirectory w = fs.isDirectory w :=
  h.map_look_eq w fun _ _ _ => rfl

theorem SameTree.linkAt_eq (h : fs.SameTree fs') : fs'.linkAt = fs.linkAt := by
  funext w
  rw [linkAt, linkAt, h.start_eq, h.top.walk_eq]

theorem SameTree.placeOf_eq (h : fs.SameTree fs') (t : Text) : fs'.placeOf t = fs.placeOf t := by
  rw [placeOf, placeOf, h.linkAt_eq, h.linkRoom]
  refine bind_congr fun traced => ?_
  dsimp only
  rw [h.start_eq]
  rcases h.find ⟨true, settled (fs.start traced.way ++ traced.way.names)⟩ with
    ⟨e, he, he'⟩ | ⟨found, found', hf, hf', -⟩
  · rw [he, he']
  · rw [hf, hf']

end FileSystem

namespace Directory

variable {d : Directory} {fs : FileSystem} {s : Selection}

def within (d : Directory) (fs : FileSystem) : Directory := { d with system := fs }

theorem isPresent_within (h : d.system.SameTree fs) : (d.within fs).isPresent = d.isPresent :=
  h.isDirectory_eq (d.wayTo [])

theorem refusal?_within (h : d.system.SameTree fs) : (d.within fs).refusal? = d.refusal? := by
  funext path
  have hf : (d.within fs).fileAt path = d.fileAt path := h.fileAt_eq (d.wayTo path)
  rw [refusal?, refusal?, hf]

theorem fileAt?_within (h : d.system.SameTree fs) : (d.within fs).fileAt? = d.fileAt? := by
  funext path
  show (fs.fileAt (d.wayTo path)).toOption.join = (d.system.fileAt (d.wayTo path)).toOption.join
  rw [h.fileAt_eq]

theorem read_within (h : d.system.SameTree fs) : (d.within fs).read = d.read := by
  funext path
  have hr : (d.within fs).reason? path = d.reason? path :=
    congrArg (List.lookup (d.place ++ path)) h.unreadable
  rw [read, read, hr, fileAt?_within h]

theorem root?_within (h : d.system.SameTree fs) :
    Option.Rel Node.Agrees d.root? (d.within fs).root? := by
  show Option.Rel _ (d.system.look (d.wayTo [])).toOption.join
    (fs.look (d.wayTo [])).toOption.join
  rcases h.look (d.wayTo []) with ⟨e, he, he'⟩ | ⟨found, found', hf, hf', hr⟩
  · rw [he, he']
    exact .none
  · rw [hf, hf']
    exact hr

theorem goesOn_within (h : d.system.SameTree fs) : (d.within fs).goesOn = d.goesOn := by
  funext path
  have hroot := root?_within h
  rw [goesOn, goesOn]
  generalize d.root? = found at hroot ⊢
  generalize (d.within fs).root? = found' at hroot ⊢
  cases hroot with
  | none => rfl
  | some hagrees =>
    rcases Node.eq_or_directories (hagrees path) with he | ⟨access, es, es', he, he'⟩
    · rw [Option.bind_some, Option.bind_some, he]
    · rw [Option.bind_some, Option.bind_some, he, he']

theorem obstacle?_within (h : d.system.SameTree fs) : (d.within fs).obstacle? = d.obstacle? := by
  funext path
  rw [obstacle?, obstacle?, goesOn_within h]
  show (if d.goesOn path then
      if fs.walkRoom < path.length then some FileError.tooDeep
      else if longestPath < (Text.utf8 (d.fullPath path)).size then some FileError.nameTooLong
      else none
    else none) = _
  rw [h.walkRoom]

theorem paths_within_perm (h : d.system.SameTree fs) (hd : d.WellFormed) (hfs : fs.WellFormed) :
    (d.within fs).paths.Perm d.paths := by
  have hd' : (d.within fs).WellFormed := hfs
  refine (List.perm_ext_iff_of_nodup hd'.nodup_paths hd.nodup_paths).mpr fun path => ?_
  have hroot := root?_within h
  rw [paths, paths]
  cases hr : d.root? with
  | none =>
    cases hr' : (d.within fs).root? with
    | none => rfl
    | some node' => simp [hr, hr'] at hroot
  | some node =>
    cases hr' : (d.within fs).root? with
    | none => simp [hr, hr'] at hroot
    | some node' =>
      rw [hr, hr'] at hroot
      cases hroot with
      | some hagrees =>
        show path ∈ node'.paths.filter node'.shows ↔ path ∈ node.paths.filter node.shows
        rw [List.mem_filter, List.mem_filter, Node.mem_paths (hd.root hr),
          Node.mem_paths (hd'.root hr'), hagrees.shows_eq path,
          ← Option.isSome_map (f := Node.kind), ← hagrees path, Option.isSome_map]

theorem sorted_within (h : d.system.SameTree fs) (hd : d.WellFormed) (hfs : fs.WellFormed) :
    (d.within fs).paths.mergeSort Path.le = d.paths.mergeSort Path.le :=
  Path.isStrictOrder_names.mergeSort_eq_of_perm (paths_within_perm h hd hfs)

/-- Whether the entries can be listed does not depend on their order. -/
theorem listingFailure?_within (h : d.system.SameTree fs) (hd : d.WellFormed)
    (hfs : fs.WellFormed) :
    (d.within fs).listingFailure? = none ↔ d.listingFailure? = none := by
  rw [listingFailure?, listingFailure?, isPresent_within h, obstacle?_within h]
  cases d.isPresent with
  | error e => rfl
  | ok isPresent =>
    dsimp only
    rw [List.findSome?_eq_none_iff, List.findSome?_eq_none_iff]
    simp only [List.mem_cons, (paths_within_perm h hd hfs).mem_iff]

theorem discovered_within (h : d.system.SameTree fs) (hd : d.WellFormed) (hfs : fs.WellFormed)
    (hl : d.listingFailure? = none) (s : Selection) :
    (d.within fs).discovered s = d.discovered s := by
  have hl' := (listingFailure?_within h hd hfs).mpr hl
  have hsel : (d.within fs).isSelected s = d.isSelected s := by
    funext path
    rw [isSelected, isSelected, isFile, isFile, fileAt?_within h]
  rw [discovered, discovered, failure?, failure?, hl, hl', discover, discover,
    sorted_within h hd hfs, hsel, refusal?_within h]

theorem exists_error_within (h : d.system.SameTree fs) (hd : d.WellFormed) (hfs : fs.WellFormed)
    (hl : d.listingFailure? ≠ none) (s : Selection) :
    ∃ e, (d.within fs).failure? = some e ∧ (d.within fs).discovered s = .error e := by
  obtain ⟨e, he⟩ := Option.ne_none_iff_exists'.mp
    fun hn => hl ((listingFailure?_within h hd hfs).mp hn)
  have hf : (d.within fs).failure? = some e := by rw [failure?, he]
  exact ⟨e, hf, discovered_of_failure? hf s⟩

theorem gather_within (h : d.system.SameTree fs) (ns : Text) (gathered : List (Text × ByteArray))
    (paths : List Path) : gather (d.within fs) ns gathered paths = gather d ns gathered paths := by
  induction paths generalizing gathered with
  | nil => rfl
  | cons path rest ih =>
    rw [gather, gather, read_within h]
    simp only [ih]
    rfl

theorem readInTurn_within (h : d.system.SameTree fs) (hd : d.WellFormed) (hfs : fs.WellFormed)
    (hl : d.listingFailure? = none) (ns : Text) (s : Selection) :
    readInTurn (d.within fs) ns s = readInTurn d ns s := by
  rw [readInTurn, readInTurn, discovered_within h hd hfs hl]
  simp only [gather_within h]

theorem readAll_within (h : d.system.SameTree fs) (hd : d.WellFormed) (hfs : fs.WellFormed)
    (hl : d.listingFailure? = none) (ns : Text) (s : Selection) :
    readAll (d.within fs) ns s = readAll d ns s := by
  have hentry : readEntry (d.within fs) ns = readEntry d ns := by
    funext path
    rw [readEntry, readEntry, read_within h]
    rfl
  rw [readAll, readAll, discovered_within h hd hfs hl, hentry]

theorem WellFormed.precedes_discover (hd : d.WellFormed) (s : Selection) :
    (d.discover s).Pairwise Path.Precedes := by
  have hsorted : (d.paths.mergeSort Path.le).Pairwise Path.Precedes :=
    (Path.isStrictOrder_names.mergeSort_strict hd.nodup_paths).imp Path.precedes_of_lex
  rw [discover]
  exact hsorted.filter _

end Directory

/-! ### Loading -/

namespace FileSystem

variable {fs fs' : FileSystem} {t ns : Text} {s : Selection}

/-- The entries of the bundle at a place can be listed, if there is one. -/
def Lists (fs : FileSystem) (t : Text) : Prop :=
  ∀ d, fs.opened t = .ok (d, true) → d.listingFailure? = none

theorem SameTree.opened_eq (h : fs.SameTree fs') (t : Text) :
    fs'.opened t = (fs.opened t).map fun found => (found.1.within fs', found.2) := by
  rw [opened, opened, h.placeOf_eq]
  cases fs.placeOf t with
  | error e => rfl
  | ok place =>
    have hpresent : Directory.isPresent ⟨fs', place⟩ = Directory.isPresent ⟨fs, place⟩ :=
      Directory.isPresent_within (d := ⟨fs, place⟩) h
    dsimp only [bind, Except.bind]
    rw [hpresent]
    cases Directory.isPresent ⟨fs, place⟩ <;> rfl

/-- Reading the files of a place gives the same, if reading those of the directory there does. -/
theorem SameTree.readAt_eq (h : fs.SameTree fs') {readFiles readFiles' : Directory → Loaded}
    (hread : ∀ d, fs.opened t = .ok (d, true) → readFiles' (d.within fs') = readFiles d) :
    readAt fs' t readFiles' = readAt fs t readFiles := by
  rw [readAt, readAt, h.opened_eq]
  cases ho : fs.opened t with
  | error e => rfl
  | ok found =>
    obtain ⟨d, isPresent⟩ := found
    cases isPresent with
    | false => rfl
    | true => exact hread d ho

theorem SameTree.load_eq (h : fs.SameTree fs') (hfs : fs.WellFormed) (hfs' : fs'.WellFormed)
    (hl : fs.Lists t) : load fs' t ns s = load fs t ns s := by
  refine h.readAt_eq fun d ho => ?_
  obtain ⟨rfl, -, -⟩ := of_opened_ok ho
  exact Directory.readInTurn_within h hfs hfs' (hl d ho) ns s

theorem SameTree.loadAtOnce_eq (h : fs.SameTree fs') (hfs : fs.WellFormed)
    (hfs' : fs'.WellFormed) (hl : fs.Lists t) :
    loadAtOnce fs' t ns s = loadAtOnce fs t ns s := by
  refine h.readAt_eq fun d ho => ?_
  obtain ⟨rfl, -, -⟩ := of_opened_ok ho
  exact Directory.readAll_within h hfs hfs' (hl d ho) ns s

/-- Entries that cannot be listed in one order cannot be listed in another one. -/
theorem SameTree.exists_error (h : fs.SameTree fs') (hfs : fs.WellFormed)
    (hfs' : fs'.WellFormed) (hl : ¬ fs.Lists t) (ns : Text) (s : Selection) :
    ∃ e, (load fs' t ns s).outcome = .error (.fileSystem e) := by
  simp only [Lists, not_forall] at hl
  obtain ⟨d, ho, hn⟩ := hl
  obtain ⟨rfl, -, -⟩ := of_opened_ok ho
  obtain ⟨e, he, -⟩ := Directory.exists_error_within h hfs hfs' hn s
  refine ⟨e, ?_⟩
  rw [Loaded.outcome, result_of_hindered (by rw [h.opened_eq, ho]; rfl) he]
  rfl

end FileSystem

/-- What is discovered are the selected files, each of them once, in strictly increasing order by
names, unless the files cannot be told; and then something stands in the way. Whichever way the same
tree is listed, the same is discovered, and the same comes of loading, as long as all directories
can be gone into. Where they cannot, nothing comes of any listing. -/
theorem discovers_exactly (d : Directory) (s : Selection) (hd : d.WellFormed) :
    (d.failure? = none → ∃ paths, d.discovered s = .ok paths ∧
      (∀ path, path ∈ paths ↔
        path ∈ d.paths ∧ d.isFile path = true ∧ s.selects path.relative = true) ∧
      paths.Nodup ∧ paths.Pairwise Path.Precedes) ∧
    (∀ e, d.failure? = some e → d.discovered s = .error e ∧ d.Hindered e) ∧
    ∀ fs : FileSystem, fs.WellFormed → d.system.SameTree fs →
      (d.listingFailure? = none → (d.within fs).discovered s = d.discovered s) ∧
      (d.listingFailure? ≠ none → ∃ e, (d.within fs).discovered s = .error e) ∧
      ∀ t ns, (d.system.Lists t → load fs t ns s = load d.system t ns s ∧
          loadAtOnce fs t ns s = loadAtOnce d.system t ns s) ∧
        (¬ d.system.Lists t → ∃ e, (load fs t ns s).outcome = .error (.fileSystem e) ∧
          (loadAtOnce fs t ns s).outcome = .error (.fileSystem e)) := by
  refine ⟨?answered, ?hindered, ?listed⟩
  case answered =>
    intro hf
    exact ⟨d.discover s, d.discovered_of_answered hf s, fun _ => Directory.mem_discover,
      hd.nodup_discover s, hd.precedes_discover s⟩
  case hindered =>
    intro e hf
    exact ⟨d.discovered_of_failure? hf s, d.hindered_of_failure? hf⟩
  case listed =>
    intro fs hfs h
    refine ⟨fun hl => Directory.discovered_within h hd hfs hl s, ?_, fun t ns => ⟨?_, ?_⟩⟩
    · intro hl
      obtain ⟨e, -, he⟩ := Directory.exists_error_within h hd hfs hl s
      exact ⟨e, he⟩
    · exact fun hl => ⟨h.load_eq hd hfs hl, h.loadAtOnce_eq hd hfs hl⟩
    · intro hl
      obtain ⟨e, he⟩ := h.exists_error hd hfs hl ns s
      refine ⟨e, he, ?_⟩
      rw [Loaded.outcome, ← result_load]
      exact he

/-- Two scripts in a directory and one next to it. -/
def listed : Entries := [("js", .directory {} [("b.js", .file ⟨#[98]⟩), ("a.js", .file ⟨#[97]⟩)]),
  ("js-old.js", .file ⟨#[99]⟩)]

/-- The same entries, with those of both directories in another order. -/
def relisted : Entries := [("js-old.js", .file ⟨#[99]⟩),
  ("js", .directory {} [("a.js", .file ⟨#[97]⟩), ("b.js", .file ⟨#[98]⟩)])]

theorem agrees_relisted : (Node.directory {} listed).Agrees (.directory {} relisted) := by
  have hinner := Node.agrees_of_perm {}
    (.swap (("a.js" : Text), Node.file ⟨#[97]⟩) (("b.js" : Text), Node.file ⟨#[98]⟩) [])
    (by decide)
  refine (hinner.cons (.refl _) "js").trans ?_
  exact Node.agrees_of_perm {} (.swap (("js-old.js" : Text), Node.file ⟨#[99]⟩) _ []) (by decide)

theorem sameTree_relisted : (site listed).SameTree (site relisted) where
  top := ((agrees_relisted.cons (.refl _) "dist").cons (.refl _) "admin-ui").cons (.refl _) "srv"
  here := rfl
  unreadable := rfl
  walkRoom := rfl
  linkRoom := rfl

/-- Three scripts are discovered in both listings, those in the directory first. Where a link is to
a name that is too long, nothing is discovered. -/
theorem discovers_listed : (site listed).SameTree (site relisted) ∧
    (∃ paths, (siteOf listed).discovered .default = .ok paths ∧ paths.length = 3 ∧
      paths.Pairwise Path.Precedes) ∧
    (siteOf relisted).discovered .default = (siteOf listed).discovered .default ∧
    (siteOf strayLink).isFile ["stray.js"] = false ∧
    (siteOf strayLink).discovered .default = .error .nameTooLong := by
  have hfs : (site listed).WellFormed := by
    refine wellFormed_site ⟨⟨by decide, by decide⟩, by decide, ?_, ⟨by decide, by decide⟩, nofun,
      trivial, trivial⟩
    exact ⟨⟨by decide, by decide⟩, by decide, trivial, ⟨by decide, by decide⟩, nofun, trivial,
      trivial⟩
  have hfs' : (site relisted).WellFormed := by
    refine wellFormed_site ⟨⟨by decide, by decide⟩, by decide, trivial, ⟨by decide, by decide⟩,
      nofun, ?_, trivial⟩
    exact ⟨⟨by decide, by decide⟩, by decide, trivial, ⟨by decide, by decide⟩, nofun, trivial,
      trivial⟩
  have hl : (siteOf listed).listingFailure? = none := by decide +kernel
  have hf : (siteOf listed).failure? = none :=
    Directory.failure?_eq_none.mpr ⟨hl, by decide +kernel⟩
  obtain ⟨hanswered, -, hsame⟩ := discovers_exactly (siteOf listed) .default hfs
  obtain ⟨paths, hpaths, -, -, hprecedes⟩ := hanswered hf
  have hlength : paths.length = 3 := by
    rw [Directory.discovered_of_answered hf, Except.ok.injEq] at hpaths
    rw [← hpaths, (Directory.discover_perm (siteOf listed) .default).length_eq]
    decide +kernel
  have hstray := (discovers_exactly (siteOf strayLink) .default wellFormed_strayLink).2.1
  exact ⟨sameTree_relisted, ⟨paths, hpaths, hlength, hprecedes⟩,
    (hsame _ hfs' sameTree_relisted).1 hl, by decide +kernel,
    (hstray _ failure?_strayLink).1⟩

end BundleHost.Bundle
