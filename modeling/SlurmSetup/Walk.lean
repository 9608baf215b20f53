import Mathlib.Data.List.Nodup
import Mathlib.Data.List.Perm.Basic
import SlurmSetup.Fs

/-!
# `os.walk` and `Path.rglob`

Both walk the real directories below a starting directory in pre-order, entering a
subdirectory in listing order and never entering a link to a directory:

* `os.walk(top)` (topdown, no `onerror`, `followlinks=False`) yields, per directory, the
  names whose `entry.is_dir()` (links followed) holds, then the others (`recursive_chown`,
  `setup.py:485-489`);
* `rglob("*")` as Python 3.6-3.11 implement it (`_RecursiveWildcardSelector`) yields, per
  directory, every entry in listing order (`run_custom_scripts`, `setup.py:145-150`).

Both start at whatever `top` resolves to (a link to a directory is walked) and yield paths
under the name `top`. A `top` that is not a directory yields nothing. `recursive_chown` hands
`_my_chown` the starting path and every entry below it that no link stands in front of, each
once (`chownTargets_once`).
-/

namespace SlurmSetup

mutual
/-- The real directories at and below a node reached as `top`, in pre-order, each with its
listing. -/
def dirTree (top : Path) : Node → List (Path × List (String × Node))
  | .dir es => (top, es) :: dirTreeEntries top es
  | _ => []

/-- `dirTree` of each entry of a listing, in order. -/
def dirTreeEntries (top : Path) : List (String × Node) → List (Path × List (String × Node))
  | [] => []
  | (n, m) :: es => dirTree (top ++ [n]) m ++ dirTreeEntries top es
end

/-- The node a path names, links followed. -/
def nodeAt (t : Node) (p : Path) : Option Node := (resolve t p).bind t.get?

/-- `DirEntry.is_dir()` / `Path.is_dir()`: `p` names a directory, links followed. -/
def isDirAt (t : Node) (p : Path) : Bool :=
  match nodeAt t p with
  | some (.dir _) => true
  | _ => false

/-- `Path.is_file()`: `p` names a regular file, links followed. -/
def isFileAt (t : Node) (p : Path) : Bool :=
  match nodeAt t p with
  | some (.file _) => true
  | _ => false

/-- The directories a walk from `top` visits. -/
def walkDirs (t : Node) (top : Path) : List (Path × List (String × Node)) :=
  match nodeAt t top with
  | some m => dirTree top m
  | none => []

/-- `os.walk(top)`: the `(root, dirs, files)` triples. -/
def osWalk (t : Node) (top : Path) : List (Path × List String × List String) :=
  (walkDirs t top).map fun (d, es) =>
    (d, (es.filter fun e => isDirAt t (d ++ [e.1])).map (·.1),
      (es.filter fun e => !isDirAt t (d ++ [e.1])).map (·.1))

/-- `Path(top).rglob("*")`. -/
def rglob (t : Node) (top : Path) : List Path :=
  (walkDirs t top).flatMap fun (d, es) => es.map fun e => d ++ [e.1]

/-- The paths `recursive_chown(path, ...)` hands to `_my_chown`, in order: `path`, then for
every `(root, dirs, files)` of `os.walk(path)` the `dirs`, then the `files`. -/
def chownTargets (t : Node) (path : Path) : List Path :=
  path :: (osWalk t path).flatMap fun (r, ds, fs) => (ds ++ fs).map fun n => r ++ [n]

mutual
theorem dirTree_valid : ∀ (m : Node) (top : Path), (∀ c ∈ top, ValidName c) → m.NamesValid →
    ∀ x ∈ dirTree top m, (∀ c ∈ x.1, ValidName c) ∧ Node.EntriesValid x.2
  | .dir es, top, htop, hm, x, hx => by
    rcases List.mem_cons.1 hx with rfl | hx
    · exact ⟨htop, hm⟩
    · exact dirTreeEntries_valid es top htop hm x hx
  | .file _, _, _, _, _, hx => by simp [dirTree] at hx
  | .link _, _, _, _, _, hx => by simp [dirTree] at hx

theorem dirTreeEntries_valid : ∀ (es : List (String × Node)) (top : Path), (∀ c ∈ top, ValidName c) →
    Node.EntriesValid es → ∀ x ∈ dirTreeEntries top es, (∀ c ∈ x.1, ValidName c) ∧ Node.EntriesValid x.2
  | [], _, _, _, _, hx => by simp [dirTreeEntries] at hx
  | (n, m) :: es, top, htop, hes, x, hx => by
    simp only [Node.EntriesValid] at hes
    rcases List.mem_append.1 hx with hx | hx
    · exact dirTree_valid m (top ++ [n]) (valid_append htop (by simpa using hes.1)) hes.2.1 x hx
    · exact dirTreeEntries_valid es top htop hes.2.2 x hx
end

/-- Below a path of file names, `rglob` lists paths of file names. -/
theorem rglob_valid {t : Node} (ht : t.NamesValid) {top : Path} (htop : ∀ c ∈ top, ValidName c) :
    ∀ p ∈ rglob t top, ∀ c ∈ p, ValidName c := by
  intro p hp
  simp only [rglob, walkDirs, List.mem_flatMap, List.mem_map] at hp
  obtain ⟨⟨d, es⟩, hd, e, he, rfl⟩ := hp
  unfold nodeAt at hd
  cases hr : resolve t top with
  | none => simp [hr] at hd
  | some q =>
    cases hm : t.get? q with
    | none => simp [hr, hm] at hd
    | some m =>
      simp only [hr, hm, Option.some_bind] at hd
      obtain ⟨hdv, hes⟩ := dirTree_valid m top htop (Node.namesValid_get? ht hm) _ hd
      exact valid_append hdv (by simpa using ((Node.entriesValid_iff.1 hes) e he).1)

/-- `recursive_chown` visits `path` and every entry below it, the ones `rglob` lists. -/
theorem mem_chownTargets {t : Node} {path q : Path} :
    q ∈ chownTargets t path ↔ q = path ∨ q ∈ rglob t path := by
  simp only [chownTargets, rglob, osWalk, List.mem_cons, List.flatMap_map,
    List.mem_flatMap, List.mem_map, List.mem_append, List.mem_filter]
  apply or_congr_right
  constructor
  · rintro ⟨⟨d, es⟩, hd, n, ⟨e, ⟨he, -⟩, rfl⟩ | ⟨e, ⟨he, -⟩, rfl⟩, rfl⟩ <;> exact ⟨_, hd, e, he, rfl⟩
  · rintro ⟨⟨d, es⟩, hd, e, he, rfl⟩
    refine ⟨_, hd, e.1, ?_, rfl⟩
    by_cases h : isDirAt t (d ++ [e.1]) = true
    · exact .inl ⟨e, ⟨he, h⟩, rfl⟩
    · exact .inr ⟨e, ⟨he, by simpa using h⟩, rfl⟩

/-! ## Every entry once

The filesystem lists each name once per directory, so the walk reaches every entry below its
start that no link stands in front of, and reaches it once. -/

/-- The paths of one directory's listing, in order, as `rglob` yields them. -/
def dirEntries : Path × List (String × Node) → List Path := fun (d, es) => es.map fun e => d ++ [e.1]

theorem rglob_eq_flatMap (t : Node) (top : Path) : rglob t top = (walkDirs t top).flatMap dirEntries := rfl

/-- Paths below `top` that differ in the name just below it are different. -/
theorem append_cons_ne {top r r' : Path} {n n' : String} (h : n ≠ n') : top ++ n :: r ≠ top ++ n' :: r' := by
  intro he
  exact h (List.cons_eq_cons.1 (List.append_cancel_left he)).1

mutual
/-- From a directory tree reached as `top` whose listings name each entry once, the walk lists
exactly the paths `top ++ rel` of its entries below the top, each once. -/
theorem dirTree_entries : ∀ (m : Node) (top : Path), m.NamesNodup →
    ((dirTree top m).flatMap dirEntries).Nodup ∧
      ∀ p, p ∈ (dirTree top m).flatMap dirEntries ↔ ∃ rel, rel ≠ [] ∧ p = top ++ rel ∧ (m.get? rel).isSome
  | .dir es, top, hm => by
    obtain ⟨ihn, ihm⟩ := dirTreeEntries_entries es top hm.2 hm.1
    simp only [dirTree, List.flatMap_cons]
    have hfirst : dirEntries (top, es) = (es.map (·.1)).map fun n => top ++ [n] := by
      simp [dirEntries, List.map_map, Function.comp_def]
    rw [hfirst]
    refine ⟨List.nodup_append.2 ⟨hm.1.map fun a b h => by simpa using h, ihn, ?_⟩, fun p => ?_⟩
    · intro x hx hx'
      obtain ⟨n, -, rfl⟩ := List.mem_map.1 hx
      obtain ⟨n', c, rel, -, hrel, he, -⟩ := (ihm _).1 hx'
      exact hrel (List.cons_eq_cons.1 (List.append_cancel_left he)).2.symm
    rw [List.mem_append, ihm]
    constructor
    · rintro (hp | ⟨n, c, rel, hc, hrel, rfl, hget⟩)
      · obtain ⟨n, hn, rfl⟩ := List.mem_map.1 hp
        obtain ⟨⟨n, c⟩, he, rfl⟩ := List.mem_map.1 hn
        exact ⟨[n], by simp, rfl, by simp [Node.get?, Node.child?, lookup_of_mem_nodup hm.1 he]⟩
      · exact ⟨n :: rel, by simp, rfl, by simpa [Node.get?, Node.child?, hc] using hget⟩
    · rintro ⟨_ | ⟨n, rel⟩, hrel, rfl, hget⟩
      · exact absurd rfl hrel
      simp only [Node.get?, Node.child?] at hget
      cases hc : es.lookup n with
      | none => simp [hc] at hget
      | some c =>
      rw [hc, Option.some_bind] at hget
      cases rel with
      | nil => exact .inl (List.mem_map.2 ⟨n, List.mem_map.2 ⟨(n, c), mem_of_lookup_eq_some hc, rfl⟩, rfl⟩)
      | cons r rel => exact .inr ⟨n, c, r :: rel, hc, by simp, by simp, hget⟩
  | .file _, _, _ => ⟨List.nodup_nil, fun p => by
      simp only [dirTree, List.flatMap_nil, List.not_mem_nil, false_iff]
      rintro ⟨_ | ⟨r, rel⟩, hrel, -, hget⟩
      · exact hrel rfl
      · simp [Node.get?, Node.child?] at hget⟩
  | .link _, _, _ => ⟨List.nodup_nil, fun p => by
      simp only [dirTree, List.flatMap_nil, List.not_mem_nil, false_iff]
      rintro ⟨_ | ⟨r, rel⟩, hrel, -, hget⟩
      · exact hrel rfl
      · simp [Node.get?, Node.child?] at hget⟩

theorem dirTreeEntries_entries : ∀ (es : List (String × Node)) (top : Path), Node.EntriesNamesNodup es →
    (es.map (·.1)).Nodup →
    ((dirTreeEntries top es).flatMap dirEntries).Nodup ∧
      ∀ p, p ∈ (dirTreeEntries top es).flatMap dirEntries ↔
        ∃ n c rel, es.lookup n = some c ∧ rel ≠ [] ∧ p = top ++ n :: rel ∧ (c.get? rel).isSome
  | [], top, _, _ => ⟨List.nodup_nil, fun p => by simp [dirTreeEntries]⟩
  | (n, c) :: es, top, hes, hnames => by
    rw [List.map_cons, List.nodup_cons] at hnames
    obtain ⟨ihn, ihm⟩ := dirTree_entries c (top ++ [n]) hes.1
    obtain ⟨ihn', ihm'⟩ := dirTreeEntries_entries es top hes.2 hnames.2
    simp only [dirTreeEntries, List.flatMap_append]
    have hne : ∀ n' c', es.lookup n' = some c' → n' ≠ n := fun n' c' h e =>
      hnames.1 (e ▸ List.mem_map_of_mem (·.1) (mem_of_lookup_eq_some h))
    refine ⟨List.nodup_append.2 ⟨ihn, ihn', fun x hx hx' => ?_⟩, fun p => ?_⟩
    · obtain ⟨rel, -, rfl, -⟩ := (ihm x).1 hx
      obtain ⟨n', c', rel', hc', -, he, -⟩ := (ihm' _).1 hx'
      exact append_cons_ne (hne n' c' hc').symm (by simpa only [List.append_assoc, List.singleton_append] using he)
    rw [List.mem_append, ihm, ihm']
    constructor
    · rintro (⟨rel, hrel, rfl, hget⟩ | ⟨n', c', rel, hc', hrel, rfl, hget⟩)
      · exact ⟨n, c, rel, List.lookup_cons_self .., hrel, by simp, hget⟩
      · exact ⟨n', c', rel, by rw [lookup_cons_ne (hne n' c' hc')]; exact hc', hrel, rfl, hget⟩
    · rintro ⟨n', c', rel, hc', hrel, rfl, hget⟩
      by_cases hn : n' = n
      · subst hn
        rw [List.lookup_cons_self] at hc'
        cases hc'
        exact .inl ⟨rel, hrel, by simp, hget⟩
      · rw [lookup_cons_ne hn] at hc'
        exact .inr ⟨n', c', rel, hc', hrel, rfl, hget⟩
end


/-- `recursive_chown` visits `path`, then what `rglob` lists in another order: per directory, the
names `entry.is_dir()` holds for first. -/
theorem chownTargets_perm (t : Node) (path : Path) : (chownTargets t path).Perm (path :: rglob t path) := by
  refine List.Perm.cons _ ?_
  simp only [osWalk, rglob, List.flatMap_map]
  refine List.Perm.flatMap_left _ fun ⟨d, es⟩ _ => ?_
  simpa [List.map_map, Function.comp_def] using
    (List.filter_append_perm (fun e => isDirAt t (d ++ [e.1])) es).map fun e => d ++ [e.1]

/-- **`recursive_chown` visits every entry once.** When `path` names a directory tree `m`, links
followed, the paths handed to `_my_chown` are `path` and every entry below it reached without
crossing a link (each `rel` that `m.get?` finds), each exactly once, and nothing else. -/
theorem chownTargets_once {s : Fs} {path : Path} {m : Node} (hm : nodeAt s.root path = some m) :
    (chownTargets s.root path).Nodup ∧
      ∀ q, q ∈ chownTargets s.root path ↔ ∃ rel, q = path ++ rel ∧ (m.get? rel).isSome := by
  obtain ⟨r, -, hr⟩ := Option.bind_eq_some.1 hm
  have hw : rglob s.root path = (dirTree path m).flatMap dirEntries := by
    rw [rglob_eq_flatMap, walkDirs, hm]
  obtain ⟨hnd, hmem⟩ := dirTree_entries m path (Node.namesNodup_get? s.nodup hr)
  have hperm := chownTargets_perm s.root path
  rw [hw] at hperm
  refine ⟨hperm.nodup_iff.2 (List.nodup_cons.2 ⟨fun h => ?_, hnd⟩), fun q => ?_⟩
  · obtain ⟨rel, hrel, he, -⟩ := (hmem path).1 h
    exact hrel (by simpa using he.symm)
  rw [hperm.mem_iff, List.mem_cons, hmem]
  constructor
  · rintro (rfl | ⟨rel, -, rfl, hget⟩)
    · exact ⟨[], by simp, rfl⟩
    · exact ⟨rel, rfl, hget⟩
  · rintro ⟨_ | ⟨c, rel⟩, rfl, hget⟩
    · exact .inl (by simp)
    · exact .inr ⟨c :: rel, by simp, rfl, hget⟩

end SlurmSetup
