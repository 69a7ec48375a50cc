import BundleHost.Bundle.Discovery
import BundleHost.Proofs.Text.Segments

/-! The paths of a tree whose names are names: not empty, free of slashes, and different within one
directory. No path of such a tree comes twice, and no two of its paths are written alike, so that
the files that are discovered can be told apart by their written paths. -/

namespace BundleHost.Bundle

/-- What a directory may call one of its entries. -/
structure IsName (name : Text) : Prop where
  ne_nil : name ≠ []
  noSlash : '/' ∉ name

mutual

/-- The names in a directory are names and differ from each other, all the way down. -/
def Node.WellFormed : Node → Prop
  | .directory _ entries => entriesWellFormed entries
  | _ => True

def entriesWellFormed : List (Text × Node) → Prop
  | [] => True
  | (name, node) :: rest =>
    IsName name ∧ (∀ entry ∈ rest, entry.1 ≠ name) ∧ node.WellFormed ∧ entriesWellFormed rest

end

/-- All directories of the file system are well-formed, and the program runs at a place that has a
path. -/
structure FileSystem.WellFormed (fs : FileSystem) : Prop where
  top : fs.top.WellFormed
  here : ∀ name ∈ fs.here, zero ∉ name

def Directory.WellFormed (d : Directory) : Prop := d.system.WellFormed

theorem wellFormed_of_lookup {entries : Entries} {name : Text} {node : Node}
    (hw : entriesWellFormed entries) (h : entries.lookup name = some node) : node.WellFormed := by
  induction entries with
  | nil => cases h
  | cons entry rest ih =>
    obtain ⟨first, found⟩ := entry
    rw [entriesWellFormed] at hw
    obtain ⟨-, -, hnode, hrest⟩ := hw
    rw [List.lookup_cons] at h
    split at h
    · exact Option.some.inj h ▸ hnode
    · exact ih hrest h

theorem Node.WellFormed.at? {node found : Node} {path : Path} (hw : node.WellFormed)
    (h : node.at? path = some found) : found.WellFormed := by
  induction path generalizing node with
  | nil =>
    rw [Node.at?] at h
    exact Option.some.inj h ▸ hw
  | cons name rest ih =>
    cases node with
    | directory access entries =>
      rw [Node.at?] at h
      obtain ⟨next, hl, hn⟩ := Option.bind_eq_some_iff.mp h
      rw [Node.WellFormed] at hw
      exact ih (wellFormed_of_lookup hw hl) hn
    | _ => cases h

/-! ### Names on paths -/

mutual

theorem Node.isName_of_mem_paths {path : Path} {name : Text} :
    ∀ {node : Node}, node.WellFormed → path ∈ node.paths → name ∈ path → IsName name
  | .directory _ _, hw, hp, hn => by
    rw [Node.paths] at hp
    rw [Node.WellFormed] at hw
    exact isName_of_mem_entriesPaths hw hp hn
  | .file _, _, hp, _ => by simp [Node.paths] at hp
  | .link _, _, hp, _ => by simp [Node.paths] at hp

theorem isName_of_mem_entriesPaths {path : Path} {name : Text} :
    ∀ {entries : List (Text × Node)}, entriesWellFormed entries → path ∈ entriesPaths entries →
      name ∈ path → IsName name
  | [], _, hp, _ => by simp [entriesPaths] at hp
  | (first, node) :: rest, hw, hp, hn => by
    rw [entriesWellFormed] at hw
    obtain ⟨hf, -, hnode, hrest⟩ := hw
    rw [entriesPaths, List.mem_append, List.mem_cons, List.mem_map] at hp
    rcases hp with (rfl | ⟨sub, hs, rfl⟩) | hp
    · exact List.mem_singleton.mp hn ▸ hf
    · rcases List.mem_cons.mp hn with rfl | hn
      · exact hf
      · exact Node.isName_of_mem_paths hnode hs hn
    · exact isName_of_mem_entriesPaths hrest hp hn

end

theorem exists_of_mem_entriesPaths {entries : List (Text × Node)} {path : Path}
    (h : path ∈ entriesPaths entries) : ∃ entry ∈ entries, ∃ rest, path = entry.1 :: rest := by
  induction entries with
  | nil => simp [entriesPaths] at h
  | cons entry others ih =>
    obtain ⟨name, node⟩ := entry
    rw [entriesPaths, List.mem_append, List.mem_cons, List.mem_map] at h
    rcases h with (rfl | ⟨sub, -, rfl⟩) | h
    · exact ⟨(name, node), by simp, [], rfl⟩
    · exact ⟨(name, node), by simp, sub, rfl⟩
    · obtain ⟨entry, he, rest, hr⟩ := ih h
      exact ⟨entry, by simp [he], rest, hr⟩

theorem ne_nil_of_mem_entriesPaths {entries : List (Text × Node)} {path : Path}
    (h : path ∈ entriesPaths entries) : path ≠ [] := by
  obtain ⟨entry, -, rest, rfl⟩ := exists_of_mem_entriesPaths h
  simp

theorem Node.ne_nil_of_mem_paths {node : Node} {path : Path} (h : path ∈ node.paths) :
    path ≠ [] := by
  cases node with
  | directory access entries =>
    rw [Node.paths] at h
    exact ne_nil_of_mem_entriesPaths h
  | _ => simp [Node.paths] at h

/-! ### No path twice -/

mutual

theorem Node.nodup_paths : ∀ {node : Node}, node.WellFormed → node.paths.Nodup
  | .directory _ _, hw => by
    rw [Node.WellFormed] at hw
    rw [Node.paths]
    exact nodup_entriesPaths hw
  | .file _, _ => by simp [Node.paths]
  | .link _, _ => by simp [Node.paths]

theorem nodup_entriesPaths :
    ∀ {entries : List (Text × Node)}, entriesWellFormed entries → (entriesPaths entries).Nodup
  | [], _ => by simp [entriesPaths]
  | (name, node) :: rest, hw => by
    rw [entriesWellFormed] at hw
    obtain ⟨-, hd, hnode, hrest⟩ := hw
    have hbelow : (node.paths.map (name :: ·)).Nodup := by
      refine List.pairwise_map.mpr ((Node.nodup_paths hnode).imp ?_)
      intro a b hab e
      exact hab (List.cons.inj e).2
    have hself : [name] ∉ node.paths.map (name :: ·) := by
      rw [List.mem_map]
      rintro ⟨sub, hs, e⟩
      exact Node.ne_nil_of_mem_paths hs (List.cons.inj e).2
    rw [entriesPaths, List.nodup_append, List.nodup_cons]
    refine ⟨⟨hself, hbelow⟩, nodup_entriesPaths hrest, ?_⟩
    -- what stands before the other entries starts with a name that none of them has
    rintro path hp _ hq rfl
    obtain ⟨entry, he, tail, rfl⟩ := exists_of_mem_entriesPaths hq
    rw [List.mem_cons, List.mem_map] at hp
    rcases hp with hp | ⟨sub, -, hp⟩
    · exact hd entry he (List.cons.inj hp).1
    · exact hd entry he (List.cons.inj hp).1.symm

end

/-! ### Written paths -/

/-- A path that consists of names can be read back from how it is written. -/
theorem Path.split_relative {path : Path} (hne : path ≠ []) (h : ∀ name ∈ path, IsName name) :
    Text.split '/' path.relative = path :=
  Text.split_join hne fun name hn => (h name hn).noSlash

theorem Path.relative_ne_nil {path : Path} (hne : path ≠ []) (h : ∀ name ∈ path, IsName name) :
    path.relative ≠ [] := by
  intro e
  have hs := split_relative hne h
  rw [e] at hs
  -- the empty text is cut into one empty piece, which is no name
  have hn : IsName [] := h [] (by rw [← hs]; simp [Text.split])
  exact hn.ne_nil rfl

theorem Path.head?_relative {path : Path} (h : ∀ name ∈ path, IsName name) :
    path.relative.head? ≠ some '/' := by
  rw [relative]
  cases path with
  | nil => simp [Text.join]
  | cons first rest =>
    have hf : IsName first := h first (by simp)
    cases first with
    | nil => exact absurd rfl hf.ne_nil
    | cons c r =>
      have hc : c ≠ '/' := fun e => hf.noSlash (by simp [e])
      cases rest <;> simpa [Text.join] using hc

/-! ### What a path leads to -/

namespace FileSystem

variable {fs : FileSystem} {w : Way} {node : Node}

theorem look_eq_some : fs.look w = .ok (some node) ↔ fs.find w = .ok (some node) := by
  rw [look]
  cases fs.find w with
  | ok found => rfl
  | error e =>
    refine iff_of_false (fun h => ?_) nofun
    dsimp only at h
    split at h <;> cases h

/-- What a path leads to is a node of the file system. -/
theorem exists_of_find (h : fs.find w = .ok (some node)) :
    ∃ path, fs.top.at? path = some node := by
  rw [find] at h
  split at h
  · cases h
  · obtain ⟨path, -, hpath⟩ := of_map_eq_ok h
    exact ⟨path, hpath⟩

end FileSystem

/-! ### The paths of a bundle -/

namespace Directory

variable {d : Directory}

theorem root?_eq_some {node : Node} :
    d.root? = some node ↔ d.system.look (d.wayTo []) = .ok (some node) := by
  rw [root?]
  cases d.system.look (d.wayTo []) with
  | error e => exact iff_of_false nofun nofun
  | ok found =>
    show found = some node ↔ _
    rw [Except.ok.injEq]

theorem exists_root_of_mem_paths {path : Path} (h : path ∈ d.paths) :
    ∃ node, d.root? = some node ∧ path ∈ node.paths := by
  rw [paths] at h
  split at h
  · next node hr => exact ⟨node, hr, (List.mem_filter.mp h).1⟩
  · cases h

theorem WellFormed.root (hd : d.WellFormed) {node : Node} (h : d.root? = some node) :
    node.WellFormed := by
  obtain ⟨path, hp⟩ := FileSystem.exists_of_find (FileSystem.look_eq_some.mp (root?_eq_some.mp h))
  exact Node.WellFormed.at? hd.top hp

theorem WellFormed.isName (hd : d.WellFormed) {path : Path} (h : path ∈ d.paths) :
    ∀ name ∈ path, IsName name := by
  intro name hn
  obtain ⟨node, hr, hp⟩ := exists_root_of_mem_paths h
  exact Node.isName_of_mem_paths (hd.root hr) hp hn

theorem ne_nil_of_mem_paths {path : Path} (h : path ∈ d.paths) : path ≠ [] := by
  obtain ⟨node, -, hp⟩ := exists_root_of_mem_paths h
  exact Node.ne_nil_of_mem_paths hp

theorem WellFormed.nodup_paths (hd : d.WellFormed) : d.paths.Nodup := by
  rw [paths]
  split
  · next node hr => exact (Node.nodup_paths (hd.root hr)).filter _
  · exact List.nodup_nil

/-- Files are told apart by their written paths. -/
theorem WellFormed.relative_injective (hd : d.WellFormed) {p q : Path} (hp : p ∈ d.paths)
    (hq : q ∈ d.paths) (h : p.relative = q.relative) : p = q := by
  rw [← Path.split_relative (ne_nil_of_mem_paths hp) (hd.isName hp), h]
  exact Path.split_relative (ne_nil_of_mem_paths hq) (hd.isName hq)

/-- Apart from the order, the selected files are those of the listing. -/
theorem discover_perm (d : Directory) (s : Selection) :
    (d.discover s).Perm (d.paths.filter (d.isSelected s)) :=
  (List.mergeSort_perm d.paths Path.le).filter _

theorem WellFormed.nodup_discover (hd : d.WellFormed) (s : Selection) : (d.discover s).Nodup :=
  (discover_perm d s).nodup_iff.mpr (hd.nodup_paths.filter _)

end Directory
end BundleHost.Bundle
