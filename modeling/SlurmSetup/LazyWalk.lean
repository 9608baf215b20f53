import SlurmSetup.Chown
import SlurmSetup.Files

/-!
# `recursive_chown` over `os.walk` as a generator (`setup.py:480-489`)

`os.walk` is a generator. It lists a directory when the loop asks for its next triple, after
every `_my_chown` of the triples before, and it decides whether to enter a subdirectory (is it
a link?) only when it gets there. `recursiveChown` reads the whole walk off the tree before the
loop. `walkChown` follows the generator, one directory at a time, with fuel for the depth.

Main theorem: on every filesystem (whose directories list each name once, as `Fs` keeps),
given fuel for its depth, the two agree on every input: the same owners when the walk returns, the same exception, at the
same entry, when it raises. What makes this hold is that `_my_chown` never changes the tree
(`foldlM_myChown_root`), so every listing the generator reads is the one read up front.
-/

namespace SlurmSetup

namespace Node

mutual
/-- How deep the real directories go: `0` for a file or a link. -/
def height : Node → Nat
  | .dir es => heightEntries es + 1
  | _ => 0

/-- The deepest entry of a listing. -/
def heightEntries : List (String × Node) → Nat
  | [] => 0
  | (_, m) :: es => max m.height (heightEntries es)
end

theorem height_le_of_mem : ∀ {es : List (String × Node)} {e : String × Node}, e ∈ es → e.2.height ≤ heightEntries es
  | (_, m) :: es, e, h => by
    rcases List.mem_cons.1 h with rfl | h
    · exact le_max_left _ _
    · exact (height_le_of_mem h).trans (le_max_right _ _)

/-- An entry of a tree is no deeper than the tree, and lists each name once if the tree does. -/
theorem get?_height_namesNodup : ∀ (t : Node) (q : Path) {m : Node}, t.get? q = some m → t.NamesNodup →
    m.height ≤ t.height ∧ m.NamesNodup
  | t, [], m, h, hn => by cases h; exact ⟨le_rfl, hn⟩
  | .dir es, n :: q, m, h, hn => by
    simp only [get?, child?] at h
    obtain ⟨c, hc, h⟩ := Option.bind_eq_some.1 h
    have hmem := mem_of_lookup_eq_some hc
    obtain ⟨h1, h2⟩ := get?_height_namesNodup c q h (namesNodup_of_mem hn.2 hmem)
    exact ⟨h1.trans ((height_le_of_mem hmem).trans (Nat.le_succ _)), h2⟩
  | .file _, _ :: _, _, h, _ => by simp [get?, child?] at h
  | .link _, _ :: _, _, h, _ => by simp [get?, child?] at h

end Node

/-! ## The walk, read as the loop goes -/

/-- `os.walk(path)` consumed by `recursive_chown`'s loop (`setup.py:485-489`), the walk being a
generator: the listing of `root` is read when the walk reaches it, after every `_my_chown`
before; then the `_my_chown` of its `dirs`, then of its `files`; then the walk of each name of
`dirs` that is no link (`followlinks=False`), which is read only then. `fuel` bounds the
depth. -/
def walkChown (uid gid pu pg : Int) : Nat → Path → Fs → Except PyError Fs
  | 0, _, s => .ok s
  | k + 1, root, s =>
    match nodeAt s.root root with
    | some (.dir es) =>
      let dirs := (es.filter fun e => isDirAt s.root (root ++ [e.1])).map (·.1)
      let files := (es.filter fun e => !isDirAt s.root (root ++ [e.1])).map (·.1)
      do
        let s ← (dirs ++ files).foldlM (fun s n => myChown uid gid pu pg s (root ++ [n])) s
        dirs.foldlM (fun s n => if s.isSymlink (root ++ [n]) then pure s else walkChown uid gid pu pg k (root ++ [n]) s) s
    | _ => .ok s

/-- `recursive_chown(path, uid, gid, previous_uid, previous_gid)` with `os.walk` read one
directory at a time. -/
def recursiveChownLazy (path : Path) (uid gid pu pg : Int) (fuel : Nat) (s : Fs) : Except PyError Fs := do
  let s ← myChown uid gid pu pg s path
  walkChown uid gid pu pg fuel path s

/-- The `_my_chown` targets `recursive_chown` takes from the listing `es` of `root`: its `dirs`,
then its `files`. -/
def listingTargets (t : Node) (root : Path) (es : List (String × Node)) : List Path :=
  ((es.filter fun e => isDirAt t (root ++ [e.1])).map (·.1) ++
    (es.filter fun e => !isDirAt t (root ++ [e.1])).map (·.1)).map (root ++ [·])

theorem chownTargets_eq (t : Node) (path : Path) :
    chownTargets t path = path :: (walkDirs t path).flatMap fun x => listingTargets t x.1 x.2 := by
  simp only [chownTargets, osWalk, List.flatMap_map, listingTargets]

section
variable {uid gid pu pg : Int}

theorem foldlM_myChown_root : ∀ (L : List Path) (s s' : Fs), L.foldlM (myChown uid gid pu pg) s = .ok s' →
    s'.root = s.root
  | [], s, s', h => by cases h; rfl
  | p :: L, s, s', h => by
    rw [List.foldlM_cons] at h
    obtain ⟨s1, h1, h⟩ := bind_eq_ok.1 h
    exact (foldlM_myChown_root L s1 s' h).trans (myChown_root h1)

/-- One directory of the walk: the `_my_chown` of its listing, then the walk of each of its
subdirectories that is no link. -/
theorem walkChown_dir {k : Nat} {d : Path} {s : Fs} {es : List (String × Node)}
    (hm : nodeAt s.root d = some (.dir es)) :
    walkChown uid gid pu pg (k + 1) d s =
      (listingTargets s.root d es).foldlM (myChown uid gid pu pg) s >>= fun s1 =>
        ((es.filter fun e => isDirAt s.root (d ++ [e.1])).map (·.1)).foldlM
          (fun s n => if s.isSymlink (d ++ [n]) then pure s else walkChown uid gid pu pg k (d ++ [n]) s) s1 := by
  simp only [walkChown, hm, listingTargets, List.foldlM_map]

/-- How the loop sees an entry `n` of a directory the walk reached: as a link exactly when it is
one, and as itself otherwise. -/
theorem entry_view {t : Node} {s : Fs} (hs : s.root = t) {d q : Path} {n : String} {m : Node}
    (hq : resolve t d = some q) (hm : t.get? (q ++ [n]) = some m) :
    s.isSymlink (d ++ [n]) = (match m with | .link _ => true | _ => false) ∧
      ((∀ tgt, m ≠ .link tgt) → nodeAt t (d ++ [n]) = some m) := by
  constructor
  · have hl : lresolve t (d ++ [n]) = some (q ++ [n]) := by
      simp only [lresolve, List.getLast?_concat, List.dropLast_concat, hq, Option.some_bind, hm, Option.map_some']
    simp only [Fs.isSymlink, hs, hl, Option.some_bind, Node.kindAt, hm, Option.map_some']
    cases m <;> rfl
  · intro hl
    have hnl : t.NotLinkAt (q ++ [n]) := fun tgt h => hl tgt (Option.some.inj (hm.symm.trans h))
    simp [nodeAt, resolve_append hq hnl, hm]

end

/-! ## The generator reads what the up-front walk read -/

section
variable {uid gid pu pg : Int} {t : Node}

/-- The walk of the subdirectories of one listing, given what the walk does one level down: it
is the up-front loop over the directories below them. -/
theorem foldlM_walkChown_children {k : Nat} {d q : Path} (hq : resolve t d = some q)
    (IH : ∀ (d : Path) (m : Node) (s : Fs), s.root = t → nodeAt t d = some m → m.NamesNodup → m.height ≤ k →
      walkChown uid gid pu pg k d s =
        ((dirTree d m).flatMap fun x => listingTargets t x.1 x.2).foldlM (myChown uid gid pu pg) s) :
    ∀ (es : List (String × Node)) (s : Fs), s.root = t → (∀ e ∈ es, t.get? (q ++ [e.1]) = some e.2) →
      Node.EntriesNamesNodup es → Node.heightEntries es ≤ k →
      ((es.filter fun e => isDirAt t (d ++ [e.1])).map (·.1)).foldlM
          (fun s n => if s.isSymlink (d ++ [n]) then pure s else walkChown uid gid pu pg k (d ++ [n]) s) s =
        ((dirTreeEntries d es).flatMap fun x => listingTargets t x.1 x.2).foldlM (myChown uid gid pu pg) s
  | [], _, _, _, _, _ => rfl
  | (n, m) :: es, s, hs, hget, hnd, hk => by
    obtain ⟨hsym, hnode⟩ := entry_view hs hq (hget _ (List.mem_cons_self _ _))
    have hrest := foldlM_walkChown_children hq IH es
    have hget' : ∀ e ∈ es, t.get? (q ++ [e.1]) = some e.2 := fun e he => hget e (List.mem_cons_of_mem _ he)
    simp only [Node.EntriesNamesNodup] at hnd
    simp only [Node.heightEntries, Nat.max_le] at hk
    simp only [dirTreeEntries, List.flatMap_append, List.foldlM_append, List.filter_cons]
    cases m with
    | file x =>
      -- not entered, and nothing below it
      have hf : isDirAt t (d ++ [n]) = false := by simp [isDirAt, hnode (by simp)]
      simp only [hf, dirTree, List.flatMap_nil, List.foldlM_nil, pure_bind]
      exact hrest s hs hget' hnd.2 hk.2
    | link tgt =>
      -- listed among `dirs` or not, never entered
      simp only [dirTree, List.flatMap_nil, List.foldlM_nil, pure_bind]
      split
      · simp only [List.map_cons, List.foldlM_cons, hsym, if_true, pure_bind]
        exact hrest s hs hget' hnd.2 hk.2
      · exact hrest s hs hget' hnd.2 hk.2
    | dir es' =>
      -- entered, and walked as the up-front walk does (one level down), the tree unchanged
      have hn := hnode (by simp)
      have hd : isDirAt t (d ++ [n]) = true := by simp [isDirAt, hn]
      simp only [hd, if_true, List.map_cons, List.foldlM_cons, hsym, Bool.false_eq_true, if_false]
      rw [IH (d ++ [n]) _ s hs hn hnd.1 hk.1]
      exact bind_congr_ok fun s' h' => hrest s' ((foldlM_myChown_root _ _ _ h').trans hs) hget' hnd.2 hk.2

/-- The walk as a generator, with fuel for the depth, is the up-front walk below a directory
whose listings name each entry once. -/
theorem walkChown_eq : ∀ (k : Nat) (d : Path) (m : Node) (s : Fs), s.root = t → nodeAt t d = some m →
    m.NamesNodup → m.height ≤ k →
    walkChown uid gid pu pg k d s =
      ((dirTree d m).flatMap fun x => listingTargets t x.1 x.2).foldlM (myChown uid gid pu pg) s
  | 0, _, m, _, _, _, _, hk => by
    cases m with
    | dir es => simp [Node.height] at hk
    | file _ => rfl
    | link _ => rfl
  | k + 1, d, m, s, hs, hm, hnd, hk => by
    cases m with
    | file _ => simp [walkChown, hs, hm, dirTree]; rfl
    | link _ => simp [walkChown, hs, hm, dirTree]; rfl
    | dir es =>
      obtain ⟨q, hq, hget⟩ := Option.bind_eq_some.1 hm
      rw [walkChown_dir (hs ▸ hm)]
      simp only [hs, dirTree, List.flatMap_cons, List.foldlM_append]
      refine bind_congr_ok fun s1 h1 => foldlM_walkChown_children hq (walkChown_eq k) es s1
        ((foldlM_myChown_root _ _ _ h1).trans hs) (fun e he => ?_) hnd.2 (by simpa [Node.height] using hk)
      simp [Node.get?_append, hget, Node.get?, Node.child?, lookup_of_mem_nodup hnd.1 he]

end

section
variable {uid gid pu pg : Int}

/-- **`recursive_chown` with `os.walk` read as a generator does what the up-front model does**,
returned owners and raised exception alike, on every filesystem, given fuel for its depth. -/
theorem recursiveChownLazy_eq (s : Fs) (path : Path) {fuel : Nat}
    (hk : s.root.height ≤ fuel) :
    recursiveChownLazy path uid gid pu pg fuel s = recursiveChown path uid gid pu pg s := by
  rw [recursiveChownLazy, recursiveChown, chownTargets_eq, List.foldlM_cons]
  refine bind_congr_ok fun s1 h1 => ?_
  have hs1 := myChown_root h1
  unfold walkDirs
  cases hm : nodeAt s.root path with
  | none => cases fuel <;> simp [walkChown, hs1, hm] <;> rfl
  | some m =>
    obtain ⟨q, -, hget⟩ := Option.bind_eq_some.1 hm
    obtain ⟨hh, hn⟩ := Node.get?_height_namesNodup _ q hget s.nodup
    exact walkChown_eq fuel path m s1 hs1 hm hn (hh.trans hk)

theorem recursiveChownLazy_eq_plain :
    recursiveChownLazy ["d"] 7 7 1 (-1) 2 plainFs = recursiveChown ["d"] 7 7 1 (-1) plainFs :=
  recursiveChownLazy_eq plainFs ["d"] (by decide)

end

end SlurmSetup
