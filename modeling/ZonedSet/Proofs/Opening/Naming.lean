/-
ZonedSet.Proofs.Opening.Naming — when a canonical path says which file is meant.

What a path leads to is reached from the root, or from the directory where relative paths start,
over names that directories give (`Storage.Reached`). Links and dots only choose the way. So where
no node has two names, a node tells how it is reached (`Reached.eq_of_nodeId`), and files opened
under different canonical paths are different files.
-/
import ZonedSet.Proofs.Opening.Device

namespace ZonedSet.Storage

variable {nodes : Array Node} {s : Storage} {trail other : Trail}

/-- A directory gives a name to a node. -/
def Names (nodes : Array Node) (dir : Nat) (name : String) (id : Nat) : Prop :=
  ∃ entries, nodes[dir]? = some (.directory entries) ∧ entries.lookup name = some id

/-- A trail goes from the root over names that directories give. -/
def Reached (nodes : Array Node) : Trail → Prop
  | [] => True
  | (name, id) :: rest => Names nodes (nodeId rest) name id ∧ Reached nodes rest

/-- Nothing has two names, and the root has none: there are no hard links. -/
structure SingleNamed (s : Storage) : Prop where
  root : ∀ dir name, ¬Names s.nodes dir name 0
  once : ∀ dir dir' name name' id, Names s.nodes dir name id → Names s.nodes dir' name' id →
    dir = dir' ∧ name = name'
  home : Reached s.nodes s.home

/-! ## Following -/

theorem Reached.tail (h : Reached nodes trail) : Reached nodes trail.tail := by
  cases trail with
  | nil => exact h
  | cons _ rest => exact h.2

theorem Reached.followNames {jump : Trail → List String → Except Errno Trail}
    (hjump : ∀ start names place, Reached nodes start → jump start names = .ok place →
      Reached nodes place)
    {names : List String} (h : Reached nodes trail)
    (hfollow : followNames nodes jump trail names = .ok other) : Reached nodes other := by
  induction names generalizing trail with
  | nil =>
    cases hfollow
    exact h
  | cons name rest ih =>
    rw [Storage.followNames] at hfollow
    split at hfollow
    · rename_i entries hdir
      split at hfollow
      · exact ih h hfollow
      split at hfollow
      · exact ih h.tail hfollow
      split at hfollow
      · cases hfollow
      split at hfollow
      · cases hfollow
      · rename_i id hid
        split at hfollow
        · refine hjump _ _ _ ?_ hfollow
          split
          · trivial
          · exact h
        · have hnext : Reached nodes ((name, id) :: trail) := ⟨⟨entries, hdir, hid⟩, h⟩
          exact ih hnext hfollow
    · cases hfollow

/-- However many links are on the way, names lead to what is reached. -/
theorem Reached.follow {links : Nat} {names : List String} (h : Reached nodes trail)
    (hfollow : follow nodes links trail names = .ok other) : Reached nodes other := by
  induction links generalizing trail names other with
  | zero => exact h.followNames (fun _ _ _ _ hjump => by cases hjump) hfollow
  | succ links ih => exact h.followNames (fun _ _ _ hstart hjump => ih hstart hjump) hfollow

theorem SingleNamed.reached_of_locate (single : s.SingleNamed) {path : String}
    (h : s.locate path = .ok trail) : Reached s.nodes trail := by
  unfold locate at h
  split at h
  · cases h
  split at h
  · cases h
  refine Reached.follow ?_ h
  split
  · trivial
  · exact single.home

theorem SingleNamed.reached_of_resolve (single : s.SingleNamed) {path : String}
    (h : s.resolve path = .ok trail) : Reached s.nodes trail := by
  unfold resolve at h
  split at h
  · cases h
  · exact single.reached_of_locate h

/-! ## One name for a node -/

/-- A node tells how it is reached. -/
theorem Reached.eq_of_nodeId (single : s.SingleNamed) (h : Reached s.nodes trail)
    (hother : Reached s.nodes other) (hid : nodeId trail = nodeId other) : trail = other := by
  induction trail generalizing other with
  | nil =>
    cases other with
    | nil => rfl
    | cons step rest =>
      obtain ⟨name, id⟩ := step
      obtain rfl : 0 = id := hid
      exact absurd hother.1 (single.root _ _)
  | cons step rest ih =>
    obtain ⟨name, id⟩ := step
    cases other with
    | nil =>
      obtain rfl : id = 0 := hid
      exact absurd h.1 (single.root _ _)
    | cons step' rest' =>
      obtain ⟨name', id'⟩ := step'
      obtain rfl : id = id' := hid
      obtain ⟨hdir, rfl⟩ := single.once _ _ _ _ _ h.1 hother.1
      rw [ih h.2 hother.2 hdir]

/-- **Different canonical paths are different files.** -/
theorem SingleNamed.node_ne_of_path_ne (single : s.SingleNamed) {site site' : FaultSite}
    {path path' : String} {hd hd' : Handle} (h : s.openFile site path = .ok hd)
    (h' : s.openFile site' path' = .ok hd') (hne : hd.path ≠ hd'.path) : hd.node ≠ hd'.node := by
  obtain ⟨trail, htrail, rfl⟩ := Backing.handle_of_openFile h
  obtain ⟨other, hother, rfl⟩ := Backing.handle_of_openFile h'
  intro hnode
  refine hne (congrArg pathOf ?_)
  exact (single.reached_of_resolve htrail).eq_of_nodeId single (single.reached_of_resolve hother)
    hnode

/-! ## Looking through all names -/

/-- All names that directories give, with the directory and the node. -/
def bindings (nodes : Array Node) : List (Nat × String × Nat) :=
  nodes.toList.zipIdx.flatMap fun (node, dir) =>
    match node with
    | .directory entries => entries.map fun (name, id) => (dir, name, id)
    | _ => []

theorem Names.mem_bindings {dir id : Nat} {name : String} (h : Names nodes dir name id) :
    (dir, name, id) ∈ bindings nodes := by
  obtain ⟨entries, hdir, hlookup⟩ := h
  obtain ⟨before, after, rfl, -⟩ := List.lookup_eq_some_iff.mp hlookup
  refine List.mem_flatMap.mpr ⟨(.directory (before ++ (name, id) :: after), dir), ?_, ?_⟩
  · rw [List.mem_zipIdx_iff_getElem?, Array.getElem?_toList]
    exact hdir
  · simp

/-- Whether anything has two names can be found out by looking through them. -/
theorem singleNamed_of_bindings (root : ∀ b ∈ bindings s.nodes, b.2.2 ≠ 0)
    (once : ∀ b ∈ bindings s.nodes, ∀ b' ∈ bindings s.nodes, b.2.2 = b'.2.2 → b = b')
    (home : s.home = []) : s.SingleNamed where
  root := by
    intro dir name h
    exact root _ h.mem_bindings rfl
  once := by
    intro dir dir' name name' id h h'
    have hsame := once _ h.mem_bindings _ h'.mem_bindings rfl
    simpa using hsame
  home := by
    rw [home]
    trivial

end ZonedSet.Storage
