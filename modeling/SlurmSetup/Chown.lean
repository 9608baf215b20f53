import SlurmSetup.Walk

/-!
# `_my_chown` and `recursive_chown` (`setup.py:469-490`)

`_my_chown` stats the entry (links followed), picks the new ids, and calls `os.chown` (links
followed) unless both are `-1`. Per entry this is the update `guarded`: the uid becomes `uid`
when there is no uid guard or the uid was `previous_uid`, the gid likewise, independently.
`guarded` is idempotent (`guarded_idem`), so an entry reached twice (directly and through a
link) ends as if reached once.

`recursive_chown` applies it to `path` and then to every entry `os.walk(path)` lists. A link
among them stands for the entry it resolves to, wherever that lies; a dangling link or a link
loop makes `stat` raise, partway through the walk. When every visited path resolves, the whole
effect is `guardedOn` over the entries reached (`foldlM_myChown`).
-/

namespace SlurmSetup

/-- `my_uid` / `my_gid` of `_my_chown`: the new id when there is no guard or the entry's id
is the guarded one, else `-1`. -/
def pickId (v previous : Int) (cur : Nat) : Int := if previous = -1 ∨ (cur : Int) = previous then v else -1

/-- The owner `_my_chown` leaves on an entry owned by `o`. -/
def guarded (uid gid previousUid previousGid : Int) (o : Owner) : Owner :=
  ⟨setId (pickId uid previousUid o.uid) o.uid, setId (pickId gid previousGid o.gid) o.gid⟩

/-- `_my_chown(path, uid, gid, previous_uid, previous_gid)`. -/
def myChown (uid gid previousUid previousGid : Int) (s : Fs) (path : Path) : Except PyError Fs := do
  let q ← s.stat path
  let st := s.owner q
  let myUid := pickId uid previousUid st.uid
  let myGid := pickId gid previousGid st.gid
  if myUid ≠ -1 ∨ myGid ≠ -1 then s.chown path myUid myGid else pure s

/-- `recursive_chown(path, uid, gid, previous_uid, previous_gid)`. The walk is read off the
tree before the loop: `_my_chown` never changes the tree (`myChown_root`). -/
def recursiveChown (path : Path) (uid gid previousUid previousGid : Int) (s : Fs) :
    Except PyError Fs :=
  (chownTargets s.root path).foldlM (myChown uid gid previousUid previousGid) s

/-- The entries `recursive_chown(path, ...)` reaches: `path` and every entry below it, a link
standing for the entry it resolves to. -/
def chownReach (t : Node) (path : Path) : List Path := (chownTargets t path).filterMap (resolve t)

/-- The owners after the guarded update of the entries in `R`. -/
def guardedOn (uid gid previousUid previousGid : Int) (R : List Path) (o : Path → Owner) :
    Path → Owner :=
  fun r => if r ∈ R then guarded uid gid previousUid previousGid (o r) else o r

/-- `_my_chown` goes through on an entry owned by `o`: `os.chown` accepts both ids it is handed
(an id left alone is handed as `-1`). -/
def StepOk (uid gid previousUid previousGid : Int) (o : Owner) : Prop :=
  ChownArgOk (pickId uid previousUid o.uid) ∧ ChownArgOk (pickId gid previousGid o.gid)

section
variable {uid gid pu pg : Int}

@[simp] theorem guardedOn_nil (o : Path → Owner) : guardedOn uid gid pu pg [] o = o := by
  funext r; simp [guardedOn]

@[simp] theorem setId_neg_one (cur : Nat) : setId (-1) cur = cur := rfl

theorem chownArg_getD {v : Int} {o : Option Nat} (h : chownArg v = .ok o) (cur : Nat) :
    o.getD cur = setId v cur := by
  simp only [setId, h]; cases o <;> rfl

theorem pickId_ok {v : Int} (hv : ChownArgOk v) (p : Int) (cur : Nat) : ChownArgOk (pickId v p cur) := by
  unfold pickId; split
  · exact hv
  · simp [ChownArgOk, uidMax]

theorem pickId_idem (v p : Int) (a : Nat) :
    setId (pickId v p (setId (pickId v p a) a)) (setId (pickId v p a) a) = setId (pickId v p a) a := by
  unfold pickId
  by_cases h : p = -1 ∨ (a : Int) = p
  · simp only [h, if_true]; split <;> simp [setId_idem]
  · simp [h]

theorem guarded_idem (o : Owner) :
    guarded uid gid pu pg (guarded uid gid pu pg o) = guarded uid gid pu pg o := by
  simp only [guarded, pickId_idem]

/-- `setId (pickId v p c) c`: `v`'s effect when the guard lets it through, else `c`. -/
theorem setId_pickId (v p : Int) (c : Nat) :
    setId (pickId v p c) c = if p = -1 ∨ (c : Int) = p then setId v c else c := by
  unfold pickId; split <;> rfl

/-- Two guarded updates towards the same id commute: each either sets that one id or keeps the
entry's, and the id once set is kept by the other. -/
theorem setId_pickId_comm (v p p' : Int) (c : Nat) :
    setId (pickId v p (setId (pickId v p' c) c)) (setId (pickId v p' c) c) =
      setId (pickId v p' (setId (pickId v p c) c)) (setId (pickId v p c) c) := by
  rcases setId_const_or_id v with ⟨n, hn⟩ | hid
  · simp only [setId_pickId, hn]
    by_cases h : p = -1 ∨ (c : Int) = p <;> by_cases h' : p' = -1 ∨ (c : Int) = p' <;>
      simp only [h, h', if_true, if_false, ite_self]
  · simp only [setId_pickId, hid, ite_self]

theorem guarded_comm (pu' pg' : Int) (o : Owner) :
    guarded uid gid pu pg (guarded uid gid pu' pg' o) = guarded uid gid pu' pg' (guarded uid gid pu pg o) := by
  simp only [guarded, setId_pickId_comm]

/-- Two walks' updates towards the same ids commute, whatever entries each reaches. -/
theorem guardedOn_comm (pu' pg' : Int) (R R' : List Path) (o : Path → Owner) :
    guardedOn uid gid pu pg R (guardedOn uid gid pu' pg' R' o) =
      guardedOn uid gid pu' pg' R' (guardedOn uid gid pu pg R o) := by
  funext r; simp only [guardedOn]; split <;> split <;> simp [guarded_comm]

theorem guardedOn_idem (R : List Path) (o : Path → Owner) :
    guardedOn uid gid pu pg R (guardedOn uid gid pu pg R o) = guardedOn uid gid pu pg R o := by
  funext r; simp only [guardedOn]; split <;> simp [guarded_idem]

theorem chownArgOk_neg_one : ChownArgOk (-1) := by decide

theorem chownArgOk_of_chownArg {v : Int} {o : Option Nat} (h : chownArg v = .ok o) : ChownArgOk v := by
  unfold chownArg at h
  unfold ChownArgOk
  split at h
  · rename_i hv; unfold uidMax at hv ⊢; omega
  · split at h
    · rename_i hv; unfold uidMax at hv ⊢; omega
    · cases h

/-- An id `_my_chown` could hand over once it still can after the update. -/
theorem chownArgOk_pickId_setId {v p : Int} {c : Nat} (h : ChownArgOk (pickId v p c)) :
    ChownArgOk (pickId v p (setId (pickId v p c) c)) := by
  unfold pickId at *
  by_cases hc : p = -1 ∨ (c : Int) = p
  · rw [if_pos hc] at h ⊢
    split
    · exact h
    · exact chownArgOk_neg_one
  · rw [if_neg hc, setId_neg_one, if_neg hc]
    exact chownArgOk_neg_one

/-- An entry `_my_chown` went through on, it goes through on again. -/
theorem stepOk_guarded {o : Owner} (h : StepOk uid gid pu pg o) : StepOk uid gid pu pg (guarded uid gid pu pg o) :=
  ⟨chownArgOk_pickId_setId h.1, chownArgOk_pickId_setId h.2⟩

theorem Fs.chown_eq {s : Fs} {p q : Path} {u g : Int} {u' g' : Option Nat} (hq : s.stat p = .ok q)
    (hu : chownArg u = .ok u') (hg : chownArg g = .ok g') :
    s.chown p u g =
      .ok (s.withOwner (Function.update s.owner q ⟨setId u (s.owner q).uid, setId g (s.owner q).gid⟩)) := by
  simp [Fs.chown, hu, hg, hq, bind, Except.bind, pure, Except.pure, chownArg_getD hu, chownArg_getD hg]

theorem myChown_eq_of_stepOk {s : Fs} {p q : Path} (hq : resolve s.root p = some q)
    (hok : StepOk uid gid pu pg (s.owner q)) :
    myChown uid gid pu pg s p =
      .ok (s.withOwner (Function.update s.owner q (guarded uid gid pu pg (s.owner q)))) := by
  have hstat : s.stat p = .ok q := by simp [Fs.stat, hq]
  simp only [myChown, hstat, bind, Except.bind]
  split
  · obtain ⟨u', hu'⟩ := chownArg_ok hok.1
    obtain ⟨g', hg'⟩ := chownArg_ok hok.2
    rw [Fs.chown_eq hstat hu' hg']
    rfl
  · rename_i h
    push_neg at h
    simp [guarded, h, pure, Except.pure, Fs.withOwner]

theorem myChown_eq {s : Fs} {p q : Path} (hq : resolve s.root p = some q)
    (hu : ChownArgOk uid) (hg : ChownArgOk gid) :
    myChown uid gid pu pg s p =
      .ok (s.withOwner (Function.update s.owner q (guarded uid gid pu pg (s.owner q)))) :=
  myChown_eq_of_stepOk hq ⟨pickId_ok hu pu _, pickId_ok hg pg _⟩

/-- **What one `_my_chown` that returns did**: the path resolved, `os.chown` accepted the ids,
and the entry got the guarded update. -/
theorem myChown_ok_inv {s s' : Fs} {p : Path} (h : myChown uid gid pu pg s p = .ok s') :
    ∃ q, resolve s.root p = some q ∧ StepOk uid gid pu pg (s.owner q) ∧
      s' = s.withOwner (Function.update s.owner q (guarded uid gid pu pg (s.owner q))) := by
  cases hq : resolve s.root p with
  | none => simp [myChown, Fs.stat, hq, bind, Except.bind] at h
  | some q =>
    have hstat : s.stat p = .ok q := by simp [Fs.stat, hq]
    have hok : StepOk uid gid pu pg (s.owner q) := by
      simp only [myChown, hstat, bind, Except.bind] at h
      split at h
      · simp only [Fs.chown, hstat, bind, Except.bind] at h
        split at h
        · cases h
        · split at h
          · cases h
          · exact ⟨chownArgOk_of_chownArg ‹_›, chownArgOk_of_chownArg ‹_›⟩
      · rename_i hn
        push_neg at hn
        exact ⟨hn.1 ▸ chownArgOk_neg_one, hn.2 ▸ chownArgOk_neg_one⟩
    exact ⟨q, rfl, hok, by rw [myChown_eq_of_stepOk hq hok] at h; exact (Except.ok.inj h).symm⟩

theorem myChown_notFound {s : Fs} {p : Path} (hq : resolve s.root p = none) :
    myChown uid gid pu pg s p = .error (lookupError s.root p) := by
  simp [myChown, Fs.stat, hq, bind, Except.bind]

/-- Every step of the walk leaves the tree, so the walk read up front is the walk Python does. -/
theorem myChown_root {s s' : Fs} {p : Path} (h : myChown uid gid pu pg s p = .ok s') :
    s'.root = s.root := by
  obtain ⟨q, -, -, rfl⟩ := myChown_ok_inv h
  rfl

/-- The walk over `L` when every path resolves to an entry `_my_chown` goes through on: each
entry reached gets the guarded update once. -/
theorem foldlM_myChown_of_stepOk :
    ∀ (L : List Path) (s : Fs), (∀ p ∈ L, ∃ q, resolve s.root p = some q ∧ StepOk uid gid pu pg (s.owner q)) →
      L.foldlM (myChown uid gid pu pg) s =
        .ok (s.withOwner (guardedOn uid gid pu pg (L.filterMap (resolve s.root)) s.owner))
  | [], s, _ => by simp [pure, Except.pure]
  | p :: L, s, h => by
    obtain ⟨q, hq, hok⟩ := h p (List.mem_cons_self _ _)
    rw [List.foldlM_cons, myChown_eq_of_stepOk hq hok]
    simp only [bind, Except.bind]
    rw [foldlM_myChown_of_stepOk L _ fun p' hp' => ?_]
    · simp only [Fs.withOwner_withOwner, Fs.withOwner_root, Fs.withOwner_owner]
      congr 2
      funext r
      simp only [guardedOn, List.filterMap_cons, hq, List.mem_cons, Function.update_apply]
      by_cases hr : r = q
      · subst hr; split <;> simp [guarded_idem]
      · simp [hr]
    · obtain ⟨q', hq', hok'⟩ := h p' (List.mem_cons_of_mem _ hp')
      refine ⟨q', hq', ?_⟩
      simp only [Fs.withOwner_owner, Function.update_apply]
      split
      · subst q'; exact stepOk_guarded hok
      · exact hok'

theorem foldlM_myChown (hu : ChownArgOk uid) (hg : ChownArgOk gid) :
    ∀ (L : List Path) (s : Fs), (∀ q ∈ L, (resolve s.root q).isSome) →
      L.foldlM (myChown uid gid pu pg) s =
        .ok (s.withOwner (guardedOn uid gid pu pg (L.filterMap (resolve s.root)) s.owner)) :=
  fun L s h => foldlM_myChown_of_stepOk L s fun p hp =>
    let ⟨q, hq⟩ := Option.isSome_iff_exists.1 (h p hp)
    ⟨q, hq, pickId_ok hu pu _, pickId_ok hg pg _⟩

/-- A walk that returns normally met, on its first visit to each entry, ids `os.chown` accepts. -/
theorem foldlM_myChown_stepOk : ∀ (L : List Path) (s s' : Fs), L.foldlM (myChown uid gid pu pg) s = .ok s' →
    ∀ p ∈ L, ∃ q, resolve s.root p = some q ∧ StepOk uid gid pu pg (s.owner q)
  | [], _, _, _ => by simp
  | p :: L, s, s', h => by
    rw [List.foldlM_cons] at h
    cases hp : myChown uid gid pu pg s p with
    | error e => rw [hp] at h; cases h
    | ok s1 =>
      rw [hp] at h
      obtain ⟨q, hq, hok, rfl⟩ := myChown_ok_inv hp
      intro p' hp'
      rcases List.mem_cons.1 hp' with rfl | hp'
      · exact ⟨q, hq, hok⟩
      · obtain ⟨q', hq', hok'⟩ := foldlM_myChown_stepOk L _ s' h p' hp'
        refine ⟨q', hq', ?_⟩
        simp only [Fs.withOwner_owner, Function.update_apply] at hok'
        split at hok'
        · subst q'; exact hok
        · exact hok'

/-- **`recursive_chown`, when every path it visits resolves**: it returns normally, the tree
is unchanged, every entry it reaches gets the guarded update once, every other entry (links
among them) keeps its ids. -/
theorem recursiveChown_spec (s : Fs) (path : Path) (hu : ChownArgOk uid) (hg : ChownArgOk gid)
    (hres : ∀ q ∈ chownTargets s.root path, (resolve s.root q).isSome) :
    recursiveChown path uid gid pu pg s =
      .ok (s.withOwner (guardedOn uid gid pu pg (chownReach s.root path) s.owner)) :=
  foldlM_myChown hu hg _ s hres

/-- `/d` holds a regular file `f` owned by `1:1` and a file `g` owned by `2:2`. -/
def plainFs : Fs where
  root := .dir [("d", .dir [("f", .file ""), ("g", .file "")])]
  owner := fun p => if p = ["d", "g"] then ⟨2, 2⟩ else ⟨1, 1⟩
  valid := by simp [Node.NamesValid, Node.EntriesValid, ValidName]
  nodup := by simp [Node.NamesNodup, Node.EntriesNamesNodup]
  rootDir := rfl

theorem recursiveChown_spec_plain :
    recursiveChown ["d"] 7 7 1 (-1) plainFs =
      .ok (plainFs.withOwner (guardedOn 7 7 1 (-1) (chownReach plainFs.root ["d"]) plainFs.owner)) :=
  recursiveChown_spec plainFs ["d"] (by decide) (by decide) (by decide)

/-- A walk that returns normally visited only paths that resolve. -/
theorem recursiveChown_resolves {s s' : Fs} {path : Path} (h : recursiveChown path uid gid pu pg s = .ok s') :
    ∀ q ∈ chownTargets s.root path, (resolve s.root q).isSome := fun q hq =>
  let ⟨_, hq', _⟩ := foldlM_myChown_stepOk _ s s' h q hq
  Option.isSome_iff_exists.2 ⟨_, hq'⟩

/-- A walk that returns normally gave each entry it reaches the guarded update once and changed
nothing else. -/
theorem recursiveChown_ok_eq {s s' : Fs} {path : Path} (h : recursiveChown path uid gid pu pg s = .ok s') :
    s' = s.withOwner (guardedOn uid gid pu pg (chownReach s.root path) s.owner) := by
  have hok := foldlM_myChown_stepOk _ s s' h
  unfold recursiveChown at h
  rw [foldlM_myChown_of_stepOk _ s hok] at h
  exact (Except.ok.inj h).symm

/-- **`recursive_chown` a second time changes nothing.** Whatever the tree (links included) and
the ids, when a call returns normally the same call from the state it leaves returns normally
and leaves that state as it is: the walk is the same, each entry it reaches had its update on its
first visit, and the update is idempotent. -/
theorem recursiveChown_twice {s s' : Fs} {path : Path} (h : recursiveChown path uid gid pu pg s = .ok s') :
    recursiveChown path uid gid pu pg s' = .ok s' := by
  have hok := foldlM_myChown_stepOk _ s s' h
  obtain rfl := recursiveChown_ok_eq h
  unfold recursiveChown
  rw [Fs.withOwner_root, foldlM_myChown_of_stepOk _ _ fun p hp => ?_, Fs.withOwner_withOwner,
    Fs.withOwner_root, Fs.withOwner_owner, ← chownReach, guardedOn_idem]
  obtain ⟨q, hq, hokq⟩ := hok p hp
  have hr : q ∈ chownReach s.root path := List.mem_filterMap.2 ⟨p, hp, hq⟩
  exact ⟨q, hq, by simpa only [Fs.withOwner_owner, guardedOn, hr, if_true] using stepOk_guarded hokq⟩

theorem recursiveChown_twice_plain :
    ∃ s', recursiveChown ["d"] 7 7 1 (-1) plainFs = .ok s' ∧ recursiveChown ["d"] 7 7 1 (-1) s' = .ok s' :=
  ⟨_, rfl, recursiveChown_twice (s := plainFs) rfl⟩

end

/-- `/d` holds a link `x` to `/gone`, which does not exist. -/
def danglingFs : Fs where
  root := .dir [("d", .dir [("x", .link ["gone"])])]
  owner := fun _ => ⟨1, 1⟩
  valid := by simp [Node.NamesValid, Node.EntriesValid, ValidName]
  nodup := by simp [Node.NamesNodup, Node.EntriesNamesNodup]
  rootDir := rfl

/-- `recursive_chown("/d", 2, 2)` over a dangling link raises `FileNotFoundError` from `stat`. -/
theorem recursiveChown_dangling : recursiveChown ["d"] 2 2 (-1) (-1) danglingFs = .error (.notFound ["d", "x"]) :=
  rfl

end SlurmSetup
