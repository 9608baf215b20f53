import SlurmSetup.Basic

/-!
# The filesystem

A directory tree whose directories list their entries in `scandir` order, symbolic links
with absolute targets, and the owner of every entry kept beside the tree by canonical path
(a path none of whose components is a link). Ownership changes never change the tree, which
is what lets `os.walk` and `rglob` be read off the tree before any `chown` runs.

Path lookup is the kernel's: every component is looked up under the canonical directory
reached so far, and a link restarts the lookup at its target with the rest of the path
appended, at most `maxSymlinks` times (`ELOOP` after that). `Path.stat()`, `Path.exists()`
and `os.chown` follow links this way; `lstat`, `is_symlink()` and `unlink()` do not follow
the last component.

A new directory entry goes last in its directory; removing a name and creating it again
therefore moves it, and "the same state" is stated path by path (`Fs.Same`).
-/

namespace SlurmSetup

/-- A filesystem entry: a regular file and its text, a directory and its entries, a link. -/
inductive Node where
  | file (text : String)
  | dir (entries : List (String × Node))
  | link (target : Path)
deriving Repr

instance Node.instNonempty : Nonempty Node := ⟨.dir []⟩

/-- What `lstat` tells apart at a path: a directory is seen without its entries. -/
inductive Kind where
  | file (text : String)
  | dir
  | link (target : Path)
deriving DecidableEq, Repr

namespace Node

def kind : Node → Kind
  | file s => .file s
  | dir _ => .dir
  | link t => .link t

/-- The entry named `n` of a directory. -/
def child? : Node → String → Option Node
  | dir es, n => es.lookup n
  | _, _ => none

/-- The entry at a canonical path. -/
def get? : Node → Path → Option Node
  | t, [] => some t
  | t, n :: p => (t.child? n).bind fun c => c.get? p

/-- What `lstat` sees at a canonical path. -/
def kindAt (t : Node) (p : Path) : Option Kind := (t.get? p).map kind

mutual
/-- Every name in the tree, and in every link's target, is a file name. -/
def NamesValid : Node → Prop
  | file _ => True
  | dir es => EntriesValid es
  | link tgt => ∀ c ∈ tgt, ValidName c

/-- Every name of a directory listing, and below it, is a file name. -/
def EntriesValid : List (String × Node) → Prop
  | [] => True
  | (n, m) :: es => ValidName n ∧ m.NamesValid ∧ EntriesValid es
end

/-- The listing after the entry named `n` becomes `f` of what it was: replaced in place,
created last, or (`none`) removed. -/
def alterEntries (n : String) (f : Option Node → Option Node) (es : List (String × Node)) :
    List (String × Node) :=
  match f (es.lookup n) with
  | some m => if (es.lookup n).isSome then es.map fun e => if e.1 = n then (n, m) else e
              else es ++ [(n, m)]
  | none => es.filter (·.1 != n)

/-- Change the entry at a canonical path (its parent must be a directory). -/
def alter (f : Option Node → Option Node) : Node → Path → Node
  | dir es, [n] => dir (alterEntries n f es)
  | dir es, n :: m :: p => dir (alterEntries n (Option.map fun c => c.alter f (m :: p)) es)
  | t, _ => t

end Node

namespace Node

variable {f : Option Node → Option Node}

theorem lookup_alterEntries_self (n : String) (es : List (String × Node)) :
    (alterEntries n f es).lookup n = f (es.lookup n) := by
  unfold alterEntries
  split
  · rename_i m hm
    split
    · rename_i hs
      obtain ⟨m0, h0⟩ := Option.isSome_iff_exists.1 hs
      rw [h0] at hm
      simp [lookup_map_replace, h0, hm]
    · rename_i hs
      simp only [Option.not_isSome_iff_eq_none] at hs
      rw [lookup_append_of_none hs, hm, List.lookup_cons_self]
  · rename_i hm; simp [lookup_filter_ne, hm]

theorem lookup_alterEntries_ne {n k : String} (h : k ≠ n) (es : List (String × Node)) :
    (alterEntries n f es).lookup k = es.lookup k := by
  unfold alterEntries
  split
  · split
    · simp [lookup_map_replace, h]
    · rename_i hs
      cases hk : es.lookup k with
      | none => rw [lookup_append_of_none hk, lookup_cons_ne h]; rfl
      | some _ => exact lookup_append_of_some hk
  · simp [lookup_filter_ne, h]

theorem alter_cons_cons (es : List (String × Node)) (n : String) {p : Path} (hp : p ≠ []) :
    (dir es).alter f (n :: p) = dir (alterEntries n (Option.map fun c => c.alter f p) es) := by
  obtain ⟨m, p, rfl⟩ := List.exists_cons_of_ne_nil hp
  rfl

theorem kind_alter (t : Node) (p : Path) : (t.alter f p).kind = t.kind := by
  unfold alter; split <;> rfl

/-- Changing the entry at `p` leaves what `lstat` sees everywhere outside `p`'s subtree. -/
theorem kindAt_alter_outside :
    ∀ (t : Node) (p q : Path), ¬ p <+: q → (t.alter f p).kindAt q = t.kindAt q
  | t, [], _, h => absurd List.nil_prefix h
  | t, _ :: _, [], _ => by simp [kindAt, get?, kind_alter]
  | .file _, _ :: _, _ :: _, _ => rfl
  | .link _, _ :: _, _ :: _, _ => rfl
  | .dir es, n :: p, k :: q, h => by
    by_cases hk : k = n
    · subst hk
      have hpq : ¬ p <+: q := fun hp => h (List.prefix_cons_inj _ |>.2 hp)
      have hp : p ≠ [] := by rintro rfl; exact hpq List.nil_prefix
      rw [alter_cons_cons es k hp]
      simp only [kindAt, get?, child?, lookup_alterEntries_self]
      cases es.lookup k with
      | none => rfl
      | some c => exact kindAt_alter_outside c p q hpq
    · have hne : ∃ g, (dir es).alter f (n :: p) = dir (alterEntries n g es) := by
        cases p
        · exact ⟨f, rfl⟩
        · exact ⟨_, rfl⟩
      obtain ⟨g, hg⟩ := hne
      rw [hg]
      simp only [kindAt, get?, child?, lookup_alterEntries_ne hk]

/-- Below `pp ++ [n]`, where `pp` is a directory, the tree after `alter` is `f`'s entry. -/
theorem get?_alter_append :
    ∀ (t : Node) (pp : Path) (n : String) (es : List (String × Node)) (r : Path),
      t.get? pp = some (dir es) →
      (t.alter f (pp ++ [n])).get? (pp ++ n :: r) = (f (es.lookup n)).bind fun c => c.get? r
  | t, [], n, es, r, h => by
    cases h
    simp [alter, get?, child?, lookup_alterEntries_self]
  | .dir es0, k :: pp, n, es, r, h => by
    simp only [get?, child?] at h
    cases hc : es0.lookup k with
    | none => simp [hc] at h
    | some c =>
      simp only [hc, Option.some_bind] at h
      rw [List.cons_append, alter_cons_cons es0 k (by simp)]
      simp only [List.cons_append, get?, child?, lookup_alterEntries_self, hc, Option.map_some',
        Option.some_bind]
      exact get?_alter_append c pp n es r h
  | .file _, _ :: _, _, _, _, h => by simp [get?, child?] at h
  | .link _, _ :: _, _, _, _, h => by simp [get?, child?] at h

/-! ## Names stay file names -/

theorem entriesValid_iff : ∀ {es : List (String × Node)},
    EntriesValid es ↔ ∀ e ∈ es, ValidName e.1 ∧ e.2.NamesValid
  | [] => by simp [EntriesValid]
  | (n, m) :: es => by simp [EntriesValid, entriesValid_iff, and_assoc]

theorem entriesValid_alterEntries {n : String} {es : List (String × Node)} (hes : EntriesValid es)
    (hn : ∀ m, f (es.lookup n) = some m → ValidName n)
    (hf : ∀ m, f (es.lookup n) = some m → m.NamesValid) :
    EntriesValid (alterEntries n f es) := by
  rw [entriesValid_iff] at hes ⊢
  unfold alterEntries
  split
  · rename_i m hm
    split
    · simp only [List.mem_map]
      rintro _ ⟨e, he, rfl⟩
      split
      · exact ⟨hn m hm, hf m hm⟩
      · exact hes e he
    · simp only [List.mem_append, List.mem_singleton]
      rintro e (he | rfl)
      · exact hes e he
      · exact ⟨hn m hm, hf m hm⟩
  · exact fun e he => hes e (List.mem_filter.1 he).1

theorem namesValid_get? : ∀ {t : Node} {p : Path} {m : Node}, t.NamesValid → t.get? p = some m → m.NamesValid
  | _, [], _, ht, h => by cases h; exact ht
  | .dir es, n :: p, m, ht, h => by
    simp only [get?, child?] at h
    cases hc : es.lookup n with
    | none => simp [hc] at h
    | some c =>
      rw [hc, Option.some_bind] at h
      exact namesValid_get? ((entriesValid_iff.1 ht) _ (mem_of_lookup_eq_some hc)).2 h
  | .file _, _ :: _, _, _, h => by simp [get?, child?] at h
  | .link _, _ :: _, _, _, h => by simp [get?, child?] at h

theorem alter_of_not_dir {t : Node} (ht : ∀ es, t ≠ dir es) (p : Path) : t.alter f p = t := by
  unfold alter; split <;> simp_all

/-- `alter` keeps every name a file name when the name it may create is one. -/
theorem namesValid_alter (hf : ∀ o m, (∀ c, o = some c → c.NamesValid) → f o = some m → m.NamesValid) :
    ∀ (t : Node) (p : Path), t.NamesValid → (∀ n ∈ p.getLast?, ∀ m, f none = some m → ValidName n) →
      (t.alter f p).NamesValid
  | dir es, [n], ht, hn => by
    simp only [NamesValid] at ht
    have hv := entriesValid_iff.1 ht
    refine entriesValid_alterEntries ht (fun m hm => ?_) fun m hm =>
      hf _ m (fun c hc => (hv _ (mem_of_lookup_eq_some hc)).2) hm
    cases hl : es.lookup n with
    | none => exact hn n rfl m (hl ▸ hm)
    | some c => exact (hv _ (mem_of_lookup_eq_some hl)).1
  | dir es, k :: m :: p, ht, hn => by
    simp only [NamesValid] at ht
    have hv := entriesValid_iff.1 ht
    -- the only entry the step down can leave at `k` is the old one, altered below
    have hk : ∀ m', (es.lookup k).map (fun c => c.alter f (m :: p)) = some m' → ValidName k ∧ m'.NamesValid := by
      intro m' hm
      obtain ⟨c, hl, rfl⟩ := Option.map_eq_some'.1 hm
      have hc := hv _ (mem_of_lookup_eq_some hl)
      exact ⟨hc.1, namesValid_alter hf c (m :: p) hc.2 (by simpa [List.getLast?_cons_cons] using hn)⟩
    exact entriesValid_alterEntries ht (fun m' hm => (hk m' hm).1) fun m' hm => (hk m' hm).2
  | dir _, [], ht, _ => ht
  | file _, p, ht, _ => by rwa [alter_of_not_dir (by simp)]
  | link _, p, ht, _ => by rwa [alter_of_not_dir (by simp)]

/-! ## Names stay distinct -/

mutual
/-- Every directory at or below lists each name once, as a real directory does. -/
def NamesNodup : Node → Prop
  | .dir es => (es.map (·.1)).Nodup ∧ EntriesNamesNodup es
  | _ => True

/-- Every directory below a listing lists each name once. -/
def EntriesNamesNodup : List (String × Node) → Prop
  | [] => True
  | (_, m) :: es => m.NamesNodup ∧ EntriesNamesNodup es
end

theorem namesNodup_of_mem : ∀ {es : List (String × Node)} {e : String × Node}, EntriesNamesNodup es → e ∈ es →
    e.2.NamesNodup
  | (_, m) :: es, e, hes, h => by
    rcases List.mem_cons.1 h with rfl | h
    · exact hes.1
    · exact namesNodup_of_mem hes.2 h

theorem nodup_alterEntries {n : String} {es : List (String × Node)} (hes : (es.map (·.1)).Nodup) :
    ((alterEntries n f es).map (·.1)).Nodup := by
  unfold alterEntries
  split
  · rename_i m _
    split
    · have hnames : ∀ e : String × Node, (if e.1 = n then (n, m) else e).1 = e.1 := fun e => by
        split <;> simp_all
      simpa only [List.map_map, Function.comp_def, hnames] using hes
    · rename_i hs
      rw [List.map_append]
      refine List.pairwise_append.2 ⟨hes, List.pairwise_singleton _ _, fun a ha b hb h => ?_⟩
      simp only [List.map_cons, List.map_nil, List.mem_singleton] at hb
      exact lookup_eq_none_iff.1 (Option.not_isSome_iff_eq_none.1 hs) (by rw [← hb, ← h]; exact ha)
  · exact hes.sublist ((List.filter_sublist _).map _)

theorem entriesNamesNodup_alterEntries {n : String} {es : List (String × Node)} (hes : EntriesNamesNodup es)
    (hf : ∀ m, f (es.lookup n) = some m → m.NamesNodup) : EntriesNamesNodup (alterEntries n f es) := by
  have hall : ∀ {es : List (String × Node)}, (∀ e ∈ es, e.2.NamesNodup) → EntriesNamesNodup es := by
    intro es h
    induction es with
    | nil => trivial
    | cons e es ih => exact ⟨h e (List.mem_cons_self _ _), ih fun e' he' => h e' (List.mem_cons_of_mem _ he')⟩
  apply hall
  unfold alterEntries
  split
  · rename_i m hm
    split
    · simp only [List.mem_map]
      rintro _ ⟨e, he, rfl⟩
      split
      · exact hf m hm
      · exact namesNodup_of_mem hes he
    · simp only [List.mem_append, List.mem_singleton]
      rintro e (he | rfl)
      · exact namesNodup_of_mem hes he
      · exact hf m hm
  · exact fun e he => namesNodup_of_mem hes (List.mem_filter.1 he).1

/-- `alter` keeps every listing free of repeated names when what it puts in place is. -/
theorem namesNodup_alter (hf : ∀ o m, (∀ c, o = some c → c.NamesNodup) → f o = some m → m.NamesNodup) :
    ∀ (t : Node) (p : Path), t.NamesNodup → (t.alter f p).NamesNodup
  | dir es, [n], ht => ⟨nodup_alterEntries ht.1, entriesNamesNodup_alterEntries ht.2 fun m hm =>
      hf _ m (fun _ hc => namesNodup_of_mem ht.2 (mem_of_lookup_eq_some hc)) hm⟩
  | dir es, k :: m :: p, ht => ⟨nodup_alterEntries ht.1, entriesNamesNodup_alterEntries ht.2 fun m' hm => by
      obtain ⟨c, hl, rfl⟩ := Option.map_eq_some'.1 hm
      exact namesNodup_alter hf c (m :: p) (namesNodup_of_mem ht.2 (mem_of_lookup_eq_some hl))⟩
  | dir _, [], ht => ht
  | file _, p, ht => by rwa [alter_of_not_dir (by simp)]
  | link _, p, ht => by rwa [alter_of_not_dir (by simp)]

theorem namesNodup_get? : ∀ {t : Node} {p : Path} {m : Node}, t.NamesNodup → t.get? p = some m → m.NamesNodup
  | _, [], _, ht, h => by cases h; exact ht
  | .dir es, n :: p, m, ht, h => by
    simp only [get?, child?] at h
    cases hc : es.lookup n with
    | none => simp [hc] at h
    | some c =>
      rw [hc, Option.some_bind] at h
      exact namesNodup_get? (namesNodup_of_mem ht.2 (mem_of_lookup_eq_some hc)) h
  | .file _, _ :: _, _, _, h => by simp [get?, child?] at h
  | .link _, _ :: _, _, _, h => by simp [get?, child?] at h

end Node

/-! ## Path lookup -/

/-- Linux's `MAXSYMLINKS`: the links one lookup may follow before `ELOOP`. -/
def maxSymlinks : Nat := 40

/-- One pass of the kernel's lookup of the components `rest` from the canonical directory
`done`; `onLink tgt rest'` carries on at a link to `tgt`, with `rest'` still to look up. -/
def lookupComps (t : Node) (onLink : Path → Path → Option Path) : Path → Path → Option Path
  | done, [] => some done
  | done, n :: rest =>
    match t.get? (done ++ [n]) with
    | some (.link tgt) => onLink tgt rest
    | some _ => lookupComps t onLink (done ++ [n]) rest
    | none => none

/-- The lookup, following at most `k` links. -/
def resolveN (t : Node) : Nat → Path → Option Path
  | 0 => lookupComps t (fun _ _ => none) []
  | k + 1 => lookupComps t (fun tgt rest => resolveN t k (tgt ++ rest)) []

/-- The canonical path `p` names, links followed (`stat`); `none` for `ENOENT`, `ENOTDIR`
or `ELOOP`. -/
def resolve (t : Node) (p : Path) : Option Path := resolveN t maxSymlinks p

/-- Why a lookup fails. -/
inductive LookupFail where
  /-- `ENOENT`: a name is missing in a directory -/
  | noEnt
  /-- `ENOTDIR`: a name is looked up in something that is no directory -/
  | notDir
  /-- `ELOOP`: the link budget is spent -/
  | loop
deriving DecidableEq, Repr

/-- `lookupComps`, saying why it fails. -/
def lookupCompsE (t : Node) (onLink : Path → Path → Except LookupFail Path) :
    Path → Path → Except LookupFail Path
  | done, [] => .ok done
  | done, n :: rest =>
    match t.get? (done ++ [n]) with
    | some (.link tgt) => onLink tgt rest
    | some _ => lookupCompsE t onLink (done ++ [n]) rest
    | none =>
      match t.get? done with
      | some (.dir _) => .error .noEnt
      | _ => .error .notDir

/-- `resolveN`, saying why it fails. -/
def resolveNE (t : Node) : Nat → Path → Except LookupFail Path
  | 0 => lookupCompsE t (fun _ _ => .error .loop) []
  | k + 1 => lookupCompsE t (fun tgt rest => resolveNE t k (tgt ++ rest)) []

theorem lookupCompsE_toOption {t : Node} {onLink : Path → Path → Option Path}
    {onLinkE : Path → Path → Except LookupFail Path} (h : ∀ tgt rest, (onLinkE tgt rest).toOption = onLink tgt rest) :
    ∀ done rest, (lookupCompsE t onLinkE done rest).toOption = lookupComps t onLink done rest
  | done, [] => rfl
  | done, n :: rest => by
    simp only [lookupCompsE, lookupComps]
    split
    · exact h _ _
    · exact lookupCompsE_toOption h _ rest
    · split <;> rfl

/-- The lookup that says why it fails is the lookup. -/
theorem resolveNE_toOption (t : Node) : ∀ k p, (resolveNE t k p).toOption = resolveN t k p
  | 0, p => lookupCompsE_toOption (fun _ _ => rfl) [] p
  | k + 1, p => lookupCompsE_toOption (fun _ _ => resolveNE_toOption t k _) [] p

/-- The exception a failed lookup of `p` raises. -/
def lookupError (t : Node) (p : Path) : PyError :=
  match resolveNE t maxSymlinks p with
  | .error .notDir => .notADirectory p
  | .error .loop => .symlinkLoop p
  | _ => .notFound p

/-- The canonical path of the entry `p` itself (`lstat`): its last component not followed. -/
def lresolve (t : Node) (p : Path) : Option Path :=
  match p.getLast? with
  | none => some []
  | some n => (resolve t p.dropLast).bind fun q => (t.get? (q ++ [n])).map fun _ => q ++ [n]

/-! ## The filesystem and its operations -/

/-- The filesystem: the tree from `/`, and the owner of each entry by canonical path. -/
structure Fs where
  root : Node
  owner : Path → Owner
  valid : root.NamesValid
  /-- every directory lists each name once -/
  nodup : root.NamesNodup
  /-- `/` is a directory -/
  rootDir : root.kind = .dir

namespace Fs

/-- `s` with the owners `o` (the tree unchanged). -/
def withOwner (s : Fs) (o : Path → Owner) : Fs := { s with owner := o }

@[simp] theorem withOwner_root (s : Fs) (o : Path → Owner) : (s.withOwner o).root = s.root := rfl
@[simp] theorem withOwner_owner (s : Fs) (o : Path → Owner) : (s.withOwner o).owner = o := rfl
@[simp] theorem withOwner_self (s : Fs) : s.withOwner s.owner = s := rfl
@[simp] theorem withOwner_withOwner (s : Fs) (o o' : Path → Owner) :
    (s.withOwner o).withOwner o' = s.withOwner o' := rfl

/-- `os.stat(p)`, `Path.stat()`: the canonical path of the entry `p` names. -/
def stat (s : Fs) (p : Path) : Except PyError Path :=
  match resolve s.root p with
  | some q => .ok q
  | none => .error (lookupError s.root p)

/-- `Path.exists()`: `stat` succeeds. -/
def pathExists (s : Fs) (p : Path) : Bool := (resolve s.root p).isSome

/-- `Path.is_symlink()`: `lstat` succeeds and finds a link. -/
def isSymlink (s : Fs) (p : Path) : Bool :=
  match (lresolve s.root p).bind s.root.kindAt with
  | some (.link _) => true
  | _ => false

/-- `Path.unlink()`: removes the entry itself, which must not be a directory. -/
def unlink (s : Fs) (p : Path) : Except PyError Fs :=
  match lresolve s.root p with
  | none => .error (lookupError s.root p)
  | some q =>
    match s.root.kindAt q with
    | some .dir => .error (.isADirectory p)
    | _ => .ok { s with
        root := s.root.alter (fun _ => none) q
        valid := Node.namesValid_alter (by simp) _ _ s.valid (by simp)
        nodup := Node.namesNodup_alter (by simp) _ _ s.nodup
        rootDir := (Node.kind_alter _ _).trans s.rootDir }

/-- A new entry `m` at `p`, owned by `root:root` (`mkdir`, `symlink`): the parent must be a
directory (`FileNotFoundError` otherwise) and the name free (`FileExistsError` otherwise, even
when a dangling link holds it). -/
def create (s : Fs) (p : Path) (m : Node) (hm : m.NamesValid) (hn : m.NamesNodup) (hp : ∀ c ∈ p, ValidName c) :
    Except PyError Fs :=
  match hl : p.getLast?, resolve s.root p.dropLast with
  | some n, some q =>
    match s.root.get? q with
    | some (.dir es) =>
      if (es.lookup n).isSome then .error (.fileExists p)
      else .ok {
        root := s.root.alter (fun _ => some m) (q ++ [n])
        owner := Function.update s.owner (q ++ [n]) Owner.root
        valid := Node.namesValid_alter (by rintro _ _ _ ⟨⟩; exact hm) _ _ s.valid
          (by simpa using hp n (List.mem_of_getLast?_eq_some hl))
        nodup := Node.namesNodup_alter (by rintro _ _ _ ⟨⟩; exact hn) _ _ s.nodup
        rootDir := (Node.kind_alter _ _).trans s.rootDir }
    | _ => .error (.notADirectory p)
  | _, _ => .error (lookupError s.root p)

/-- `Path.symlink_to(tgt)`: a new link at `p`. -/
def symlinkTo (s : Fs) (p : Path) (tgt : Path) (hp : ∀ c ∈ p, ValidName c) (ht : ∀ c ∈ tgt, ValidName c) :
    Except PyError Fs :=
  s.create p (.link tgt) ht trivial hp

/-- `os.chown(p, u, g)`: the ids are read first, then the link-following lookup; `-1` keeps
an id. -/
def chown (s : Fs) (p : Path) (u g : Int) : Except PyError Fs := do
  let u' ← chownArg u
  let g' ← chownArg g
  let q ← s.stat p
  let o := s.owner q
  pure (s.withOwner (Function.update s.owner q ⟨u'.getD o.uid, g'.getD o.gid⟩))

end Fs

end SlurmSetup
