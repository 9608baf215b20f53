import SlurmSetup.Walk

/-!
# Text files and directories

`open(p).read()` / `readlines()`, `open(p, "w")` / `Path.write_text`, `open(p, "a")`,
`os.mkdir` and `os.makedirs(p, exist_ok=True)`.

Opening for writing follows links, a dangling one included: with `O_CREAT` and without
`O_EXCL` the kernel creates the file where the link points (`openAt`).

Two relations between trees carry the frame facts. `SameLinks`: no lookup can tell the trees
apart (a file's text changed). `Extends`: every entry of the first is in the second, of the
same kind (new entries added). Lookups that succeed keep succeeding, with the same result,
along both (`resolve_of_sameLinks`, `resolve_of_extends`).
-/

namespace SlurmSetup

/-- What a lookup sees of an entry: a link's target, or nothing for any other entry. -/
def Kind.target? : Kind → Option Path
  | .link tgt => some tgt
  | _ => none

namespace Node

/-- No path lookup tells `t` and `t'` apart: the same names, and the same links. -/
def SameLinks (t t' : Node) : Prop :=
  ∀ p, (t.kindAt p).map Kind.target? = (t'.kindAt p).map Kind.target?

/-- Every entry of `t` is in `t'`, a link with the same target, anything else not a link. -/
def Extends (t t' : Node) : Prop :=
  ∀ p k, t.kindAt p = some k → (t'.kindAt p).map Kind.target? = some k.target?

theorem SameLinks.extends {t t' : Node} (h : t.SameLinks t') : t.Extends t' := by
  intro p k hk; rw [← h p, hk]; rfl

theorem Extends.trans {t t' t'' : Node} (h : t.Extends t') (h' : t'.Extends t'') : t.Extends t'' := by
  intro p k hk
  have h1 := h p k hk
  cases hk' : t'.kindAt p with
  | none => simp [hk'] at h1
  | some k' => rw [h' p k' hk']; simpa [hk'] using h1

theorem get?_append : ∀ (t : Node) (p r : Path), t.get? (p ++ r) = (t.get? p).bind fun c => c.get? r
  | _, [], _ => rfl
  | t, n :: p, r => by
    simp only [List.cons_append, get?]
    cases t.child? n with
    | none => rfl
    | some c => exact get?_append c p r

/-- An entry's parent is a directory listing it. -/
theorem get?_parent {t : Node} {pp : Path} {n : String} {m : Node} (h : t.get? (pp ++ [n]) = some m) :
    ∃ es, t.get? pp = some (dir es) ∧ es.lookup n = some m := by
  rw [get?_append] at h
  cases hp : t.get? pp with
  | none => simp [hp] at h
  | some c =>
    rw [hp, Option.some_bind] at h
    cases c with
    | dir es => exact ⟨es, rfl, by simpa [get?, child?] using h⟩
    | file _ => simp [get?, child?] at h
    | link _ => simp [get?, child?] at h

theorem get?_eq_none_below {t : Node} {q p : Path} (hq : t.get? q = none) (h : q <+: p) :
    t.get? p = none := by
  obtain ⟨r, rfl⟩ := h; rw [get?_append, hq]; rfl

/-- What a lookup sees at `p`. -/
theorem kindAt_target (t : Node) (p : Path) :
    (t.kindAt p).map Kind.target? = (t.get? p).map fun m => m.kind.target? := by
  simp [kindAt, Option.map_map]; rfl

end Node

/-! ## Lookups along `SameLinks` and `Extends` -/

section
variable {t t' : Node}

theorem lookupComps_mono (h : t.Extends t') {onLink onLink' : Path → Path → Option Path}
    (hon : ∀ tgt rest r, onLink tgt rest = some r → onLink' tgt rest = some r) :
    ∀ (done rest : Path) (r : Path), lookupComps t onLink done rest = some r →
      lookupComps t' onLink' done rest = some r
  | _, [], _, e => e
  | done, n :: rest, r, e => by
    simp only [lookupComps] at e ⊢
    cases hg : t.get? (done ++ [n]) with
    | none => rw [hg] at e; cases e
    | some m =>
      have hm := h (done ++ [n]) m.kind (by simp [Node.kindAt, hg])
      rw [Node.kindAt_target] at hm
      cases hg' : t'.get? (done ++ [n]) with
      | none => rw [hg'] at hm; cases hm
      | some m' =>
        rw [hg', Option.map_some', Option.some.injEq] at hm
        rw [hg] at e
        cases m <;> cases m' <;> simp only [Node.kind, Kind.target?, Option.some.injEq,
          reduceCtorEq] at hm ⊢ <;> first
          | exact lookupComps_mono h hon _ rest r e
          | (subst hm; exact hon _ _ _ e)

theorem resolveN_mono (h : t.Extends t') : ∀ k p r, resolveN t k p = some r → resolveN t' k p = some r
  | 0, p, r, e => lookupComps_mono h (fun _ _ _ e => e) [] p r e
  | k + 1, p, r, e => lookupComps_mono h (fun _ _ _ e => resolveN_mono h k _ _ e) [] p r e

theorem resolve_of_extends (h : t.Extends t') {p r : Path} (e : resolve t p = some r) : resolve t' p = some r :=
  resolveN_mono h _ p r e

theorem resolve_of_sameLinks (h : t.SameLinks t') (p : Path) : resolve t' p = resolve t p := by
  have h' : t'.SameLinks t := fun q => (h q).symm
  cases e : resolve t p with
  | none =>
    cases e' : resolve t' p with
    | none => rfl
    | some r => rw [resolve_of_extends h'.extends e'] at e; cases e
  | some r => exact resolve_of_extends h.extends e

end

/-! ## One more name

Looking up `p ++ [n]` carries on from where the lookup of `p` ended, unless the entry `n` there
is a link, which restarts the lookup with what is left of the link budget. -/

namespace Node

/-- The entry at `q`, if any, is no link. -/
def NotLinkAt (t : Node) (q : Path) : Prop := ∀ tgt, t.get? q ≠ some (.link tgt)

theorem notLinkAt_iff {t : Node} {q : Path} : t.NotLinkAt q ↔ (t.kindAt q).bind Kind.target? = none := by
  unfold NotLinkAt kindAt
  cases t.get? q with
  | none => simp
  | some m => cases m <;> simp [kind, Kind.target?]

instance (t : Node) (q : Path) : Decidable (t.NotLinkAt q) := decidable_of_iff _ notLinkAt_iff.symm

/-- The entry `n` of the directory `pp` names, if there is one, is no link. -/
def NotLinkIn (t : Node) (pp : Path) (n : String) : Prop := ∀ q, resolve t pp = some q → t.NotLinkAt (q ++ [n])

instance (t : Node) (pp : Path) (n : String) : Decidable (t.NotLinkIn pp n) :=
  decidable_of_iff (∀ q ∈ (resolve t pp).toList, t.NotLinkAt (q ++ [n])) (by simp [NotLinkIn])

section
variable {t : Node} {n : String}

theorem lookupComps_append {onLink : Path → Path → Option Path}
    (hon : ∀ tgt rest q, onLink tgt rest = some q → t.NotLinkAt (q ++ [n]) →
      onLink tgt (rest ++ [n]) = (t.get? (q ++ [n])).map fun _ => q ++ [n]) :
    ∀ done rest q, lookupComps t onLink done rest = some q → t.NotLinkAt (q ++ [n]) →
      lookupComps t onLink done (rest ++ [n]) = (t.get? (q ++ [n])).map fun _ => q ++ [n]
  | done, [], q, e, hl => by
    cases e
    cases hg : t.get? (done ++ [n]) with
    | none => simp [lookupComps, hg]
    | some m =>
      cases m with
      | link tgt => exact absurd hg (hl tgt)
      | file _ => simp [lookupComps, hg]
      | dir _ => simp [lookupComps, hg]
  | done, c :: rest, q, e, hl => by
    simp only [List.cons_append, lookupComps] at e ⊢
    cases hc : t.get? (done ++ [c]) with
    | none => simp [hc] at e
    | some m =>
      cases m with
      | link tgt => simp only [hc] at e ⊢; exact hon tgt rest q e hl
      | file _ => simp only [hc] at e ⊢; exact lookupComps_append hon _ rest q e hl
      | dir _ => simp only [hc] at e ⊢; exact lookupComps_append hon _ rest q e hl

theorem resolveN_append : ∀ k p q, resolveN t k p = some q → t.NotLinkAt (q ++ [n]) →
    resolveN t k (p ++ [n]) = (t.get? (q ++ [n])).map fun _ => q ++ [n]
  | 0, p, q, e, hl => lookupComps_append (fun _ _ _ e => by cases e) [] p q e hl
  | k + 1, p, q, e, hl => lookupComps_append (fun tgt rest q e hl => by
      rw [← List.append_assoc]; exact resolveN_append k _ q e hl) [] p q e hl

/-- A lookup ends on an entry that is no link. -/
theorem lookupComps_notLink {onLink : Path → Path → Option Path}
    (hon : ∀ tgt rest q, onLink tgt rest = some q → (t.get? q).isSome ∧ t.NotLinkAt q) :
    ∀ done rest q, (t.get? done).isSome ∧ t.NotLinkAt done → lookupComps t onLink done rest = some q →
      (t.get? q).isSome ∧ t.NotLinkAt q
  | done, [], q, hd, e => by cases e; exact hd
  | done, c :: rest, q, hd, e => by
    simp only [lookupComps] at e
    cases hc : t.get? (done ++ [c]) with
    | none => simp [hc] at e
    | some m =>
      cases m with
      | link tgt => simp only [hc] at e; exact hon tgt rest q e
      | file _ =>
        simp only [hc] at e
        exact lookupComps_notLink hon _ rest q ⟨by simp [hc], by simp [NotLinkAt, hc]⟩ e
      | dir _ =>
        simp only [hc] at e
        exact lookupComps_notLink hon _ rest q ⟨by simp [hc], by simp [NotLinkAt, hc]⟩ e

theorem resolveN_notLink (ht : ∀ tgt, t ≠ .link tgt) :
    ∀ k p q, resolveN t k p = some q → (t.get? q).isSome ∧ t.NotLinkAt q
  | 0, p, q, e => lookupComps_notLink (fun _ _ _ e => by cases e) [] p q ⟨rfl, fun tgt h => ht tgt (by simpa [get?] using h)⟩ e
  | k + 1, p, q, e => lookupComps_notLink (fun _ _ _ e => resolveN_notLink ht k _ _ e) [] p q
      ⟨rfl, fun tgt h => ht tgt (by simpa [get?] using h)⟩ e

/-- The lookup of `rest ++ [n]` passes through the lookup of `rest` and ends at its entry `n`,
unless that entry is a link. -/
theorem lookupComps_last {onLink : Path → Path → Option Path}
    (hon : ∀ tgt rest r, onLink tgt (rest ++ [n]) = some r →
      ∃ q, onLink tgt rest = some q ∧ (r = q ++ [n] ∨ ¬ t.NotLinkAt (q ++ [n]))) :
    ∀ done rest r, lookupComps t onLink done (rest ++ [n]) = some r →
      ∃ q, lookupComps t onLink done rest = some q ∧ (r = q ++ [n] ∨ ¬ t.NotLinkAt (q ++ [n]))
  | done, [], r, e => by
    refine ⟨done, rfl, ?_⟩
    cases hg : t.get? (done ++ [n]) with
    | none => simp [lookupComps, hg] at e
    | some m =>
      cases m with
      | link tgt => exact .inr fun h => h tgt hg
      | file _ => simp [lookupComps, hg] at e; exact .inl e.symm
      | dir _ => simp [lookupComps, hg] at e; exact .inl e.symm
  | done, c :: rest, r, e => by
    simp only [List.cons_append, lookupComps] at e ⊢
    cases hc : t.get? (done ++ [c]) with
    | none => simp [hc] at e
    | some m =>
      cases m with
      | link tgt => simp only [hc] at e ⊢; exact hon tgt rest r e
      | file _ => simp only [hc] at e ⊢; exact lookupComps_last hon _ rest r e
      | dir _ => simp only [hc] at e ⊢; exact lookupComps_last hon _ rest r e

theorem resolveN_last : ∀ k p r, resolveN t k (p ++ [n]) = some r →
    ∃ q, resolveN t k p = some q ∧ (r = q ++ [n] ∨ ¬ t.NotLinkAt (q ++ [n]))
  | 0, p, r, e => lookupComps_last (fun _ _ _ e => by cases e) [] p r e
  | k + 1, p, r, e => lookupComps_last (fun tgt rest r e => by
      rw [← List.append_assoc] at e; exact resolveN_last k _ r e) [] p r e

end

end Node

theorem resolve_append {t : Node} {p q : Path} {n : String} (e : resolve t p = some q) (hl : t.NotLinkAt (q ++ [n])) :
    resolve t (p ++ [n]) = (t.get? (q ++ [n])).map fun _ => q ++ [n] :=
  Node.resolveN_append _ p q e hl

/-- A path whose last name is no link resolves to that name in the directory its parent resolves to. -/
theorem resolve_last {t : Node} {pp r : Path} {n : String} (hl : t.NotLinkIn pp n)
    (e : resolve t (pp ++ [n]) = some r) : ∃ q, resolve t pp = some q ∧ r = q ++ [n] := by
  obtain ⟨q, hq, h | h⟩ := Node.resolveN_last _ pp r e
  · exact ⟨q, hq, h⟩
  · exact absurd (hl q hq) h

/-- A link of `t` is a link of every tree extending it. -/
theorem Node.Extends.notLinkAt {t t' : Node} (h : t.Extends t') {r : Path} (hl : t'.NotLinkAt r) :
    t.NotLinkAt r := by
  intro tgt ht
  obtain ⟨k, hk, hkt⟩ := Option.map_eq_some'.1 (h r (.link tgt) (by simp [Node.kindAt, ht, Node.kind]))
  obtain ⟨m, hm, rfl⟩ := Option.map_eq_some'.1 hk
  cases m with
  | link tgt' => cases hkt; exact hl tgt hm
  | file _ => cases hkt
  | dir _ => cases hkt

theorem Node.Extends.notLinkIn {t t' : Node} (h : t.Extends t') {pp : Path} {n : String}
    (hl : t'.NotLinkIn pp n) : t.NotLinkIn pp n :=
  fun q hq => h.notLinkAt (hl q (resolve_of_extends h hq))

/-- `stat` lands on an entry of the filesystem that is no link. -/
theorem Fs.resolve_notLink (s : Fs) {p q : Path} (e : resolve s.root p = some q) :
    (s.root.get? q).isSome ∧ s.root.NotLinkAt q :=
  Node.resolveN_notLink (fun tgt h => by have := s.rootDir; simp [h, Node.kind] at this) _ p q e

/-! ## What changes a tree how -/

namespace Node

variable {t : Node}

/-- Changing an existing entry into one a lookup sees the same way changes no lookup. -/
theorem sameLinks_alter {q : Path} {m m' : Node} (hq : t.get? q = some m) (hk : m.kind.target? = m'.kind.target?)
    (hdir : ∀ es, m' ≠ dir es) (hm : ∀ es, m ≠ dir es) :
    t.SameLinks (t.alter (fun o => o.map fun _ => m') q) := by
  intro p
  by_cases hp : q <+: p
  · obtain ⟨r, rfl⟩ := hp
    rcases List.eq_nil_or_concat q with rfl | ⟨pp, n, rfl⟩
    · cases t <;> simp_all [get?, alter]
    · rw [List.concat_eq_append] at hq ⊢
      obtain ⟨es, hpp, hn⟩ := get?_parent hq
      rw [kindAt_target, kindAt_target, List.append_assoc, List.singleton_append,
        get?_alter_append t pp n es r hpp, get?_append, hpp, Option.some_bind]
      simp only [get?, child?, hn, Option.map_some', Option.some_bind]
      cases r with
      | nil => simp [get?, hk]
      | cons c r =>
        cases m <;> cases m' <;> simp_all [get?, child?]
  · rw [kindAt_alter_outside t q p hp]

/-- A new entry at a free name of an existing directory adds to the tree. -/
theorem extends_alter_new {pp : Path} {n : String} {es : List (String × Node)} {m : Node}
    (hpp : t.get? pp = some (dir es)) (hn : es.lookup n = none) :
    t.Extends (t.alter (fun _ => some m) (pp ++ [n])) := by
  intro p k hk
  by_cases hp : pp ++ [n] <+: p
  · have : t.get? p = none :=
      get?_eq_none_below (by rw [get?_append, hpp]; simpa [get?, child?] using hn) hp
    simp [kindAt, this] at hk
  · rw [kindAt_alter_outside t _ p hp, hk]
    rfl

/-- The new entry is where it was put. -/
theorem get?_alter_new {pp : Path} {n : String} {es : List (String × Node)} {m : Node}
    (hpp : t.get? pp = some (dir es)) : (t.alter (fun _ => some m) (pp ++ [n])).get? (pp ++ [n]) = some m := by
  simpa using get?_alter_append (f := fun _ => some m) t pp n es [] hpp

/-- `t'` is `t` with entries added at most: every entry of `t` is in `t'`, the same link or
again not a link, and every file keeps its text. -/
def Grows (t t' : Node) : Prop :=
  t.Extends t' ∧ ∀ q x, t.get? q = some (file x) → t'.get? q = some (file x)

theorem Grows.refl (t : Node) : t.Grows t :=
  ⟨fun p k hk => by rw [hk]; rfl, fun _ _ h => h⟩

theorem Grows.trans {t t' t'' : Node} (h : t.Grows t') (h' : t'.Grows t'') : t.Grows t'' :=
  ⟨h.1.trans h'.1, fun q x hq => h'.2 q x (h.2 q x hq)⟩

theorem get?_eq_file {t : Node} {q : Path} {x : String} :
    t.kindAt q = some (.file x) ↔ t.get? q = some (file x) := by
  unfold kindAt
  cases t.get? q with
  | none => simp
  | some m => cases m <;> simp [kind]

/-- A new entry at a free name of an existing directory only adds to the tree. -/
theorem grows_alter_new {pp : Path} {n : String} {es : List (String × Node)} {m : Node}
    (hpp : t.get? pp = some (dir es)) (hn : es.lookup n = none) :
    t.Grows (t.alter (fun _ => some m) (pp ++ [n])) := by
  refine ⟨extends_alter_new hpp hn, fun q x hq => ?_⟩
  have hfree : t.get? (pp ++ [n]) = none := by rw [get?_append, hpp]; simpa [get?, child?] using hn
  have hnp : ¬ pp ++ [n] <+: q := fun h => by rw [get?_eq_none_below hfree h] at hq; cases hq
  rw [← get?_eq_file, kindAt_alter_outside t _ q hnp, get?_eq_file]
  exact hq

/-- No `lstat` tells `t` and `t'` apart: the same kind, text and target at every path. -/
def SameKinds (t t' : Node) : Prop := ∀ p, t.kindAt p = t'.kindAt p

theorem SameKinds.symm {t t' : Node} (h : t.SameKinds t') : t'.SameKinds t := fun p => (h p).symm

theorem SameKinds.trans {t t' t'' : Node} (h : t.SameKinds t') (h' : t'.SameKinds t'') : t.SameKinds t'' :=
  fun p => (h p).trans (h' p)

theorem SameKinds.grows {t t' : Node} (h : t.SameKinds t') : t.Grows t' :=
  ⟨fun p k hk => by rw [← h p, hk]; rfl, fun q x hq => get?_eq_file.1 (by rw [← h q]; exact get?_eq_file.2 hq)⟩

theorem SameKinds.resolve_eq {t t' : Node} (h : t.SameKinds t') (p : Path) : resolve t p = resolve t' p := by
  cases hr : resolve t p with
  | some r => exact (resolve_of_extends h.grows.1 hr).symm
  | none =>
    cases hr' : resolve t' p with
    | none => rfl
    | some r => rw [resolve_of_extends h.symm.grows.1 hr'] at hr; cases hr

theorem SameKinds.lresolve_eq {t t' : Node} (h : t.SameKinds t') (p : Path) : lresolve t p = lresolve t' p := by
  have hmap : ∀ q (r : Path), (t.get? q).map (fun _ => r) = (t'.get? q).map (fun _ => r) := fun q r => by
    simpa [kindAt, Option.map_map, Function.comp_def] using congrArg (Option.map fun _ => r) (h q)
  unfold lresolve
  split
  · rfl
  · simp only [h.resolve_eq, hmap]

/-- A link stays the same link in a tree that extends its own. -/
theorem Extends.kindAt_link {t t' : Node} (h : t.Extends t') {p tgt : Path} (hk : t.kindAt p = some (.link tgt)) :
    t'.kindAt p = some (.link tgt) := by
  have hx := h p _ hk
  cases hk' : t'.kindAt p with
  | none => simp [hk'] at hx
  | some k => cases k <;> simp_all [Kind.target?]

/-- What `lstat` finds as a link, it finds again in a tree that extends its own. -/
theorem Extends.lstat_link {t t' : Node} (h : t.Extends t') {p tgt : Path}
    (hl : (lresolve t p).bind t.kindAt = some (.link tgt)) : (lresolve t' p).bind t'.kindAt = some (.link tgt) := by
  obtain ⟨c, hc, hk⟩ := Option.bind_eq_some.1 hl
  have hk' := h.kindAt_link hk
  unfold lresolve at hc ⊢
  split at hc
  · cases hc; exact hk'
  · obtain ⟨q, hq, hc⟩ := Option.bind_eq_some.1 hc
    obtain ⟨_, -, rfl⟩ := Option.map_eq_some'.1 hc
    obtain ⟨m, hm, -⟩ := Option.map_eq_some'.1 hk'
    simp [resolve_of_extends h hq, hm, hk']

end Node

/-- What `lstat` of `pp ++ [n]` finds: the entry `n` of the directory `stat` of `pp` reaches. -/
theorem lresolve_some {t : Node} {pp r : Path} {n : String} (hr : lresolve t (pp ++ [n]) = some r) :
    ∃ q es m, resolve t pp = some q ∧ t.get? q = some (.dir es) ∧ es.lookup n = some m ∧ r = q ++ [n] ∧
      t.get? r = some m := by
  simp only [lresolve, List.getLast?_concat, List.dropLast_concat] at hr
  obtain ⟨q, hq, hr⟩ := Option.bind_eq_some.1 hr
  obtain ⟨m, hm, rfl⟩ := Option.map_eq_some'.1 hr
  obtain ⟨es, hes, hn⟩ := Node.get?_parent hm
  exact ⟨q, es, m, hq, hes, hn, rfl, hm⟩

namespace Fs

/-- `s'` is `s` with entries added and owners changed at most (`Node.Grows`). -/
def Grows (s s' : Fs) : Prop := s.root.Grows s'.root

/-! ## Reading -/

/-- `open(p).read()`: the text of the file `p` names. -/
def readText (s : Fs) (p : Path) : Except PyError String :=
  match nodeAt s.root p with
  | some (.file x) => .ok x
  | some _ => .error (.isADirectory p)
  | none => .error (lookupError s.root p)

theorem readText_eq_ok {s : Fs} {p : Path} {x : String} :
    s.readText p = .ok x ↔ ∃ q, resolve s.root p = some q ∧ s.root.get? q = some (.file x) := by
  unfold readText nodeAt
  cases hr : resolve s.root p with
  | none => simp
  | some q =>
    simp only [Option.some_bind]
    split <;> simp_all

/-! ## Writing -/

/-- Where `open(p, "w")` or `open(p, "a")` writes, following at most `k` more links in the
last component: the canonical path of the file `p` names and its text, or of the file to
create (`none`) when `p`'s name is free, or a dangling link, in an existing directory. -/
def openAt (t : Node) : Nat → Path → Except PyError (Path × Option String)
  | k, p =>
    match resolve t p with
    | some q =>
      match t.get? q with
      | some (.file x) => .ok (q, some x)
      | _ => .error (.isADirectory p)
    | none =>
      match p.getLast?, resolve t p.dropLast with
      | some n, some q =>
        match t.get? q with
        | some (.dir es) =>
          match es.lookup n with
          | none => .ok (q ++ [n], none)
          | some (.link tgt) =>
            match k with
            | 0 => .error (.symlinkLoop p)
            | k + 1 => openAt t k tgt
          | some _ => .error (.notFound p)
        | _ => .error (.notADirectory p)
      | _, _ => .error (lookupError t p)

/-- A file `openAt` creates is a free name of an existing directory, and a file name. -/
theorem openAt_new {t : Node} (ht : t.NamesValid) :
    ∀ (k : Nat) (p r : Path), (∀ c ∈ p, ValidName c) → openAt t k p = .ok (r, none) →
      ∃ pp n es, r = pp ++ [n] ∧ t.get? pp = some (.dir es) ∧ es.lookup n = none ∧ ValidName n
  | k, p, r, hp, e => by
    unfold openAt at e
    split at e
    · split at e <;> cases e
    · rename_i hres
      split at e
      · rename_i n q hl hq
        split at e
        · rename_i es hes
          split at e
          · rename_i hn
            cases e
            exact ⟨q, n, es, rfl, hes, hn, hp n (List.mem_of_getLast?_eq_some hl)⟩
          · rename_i tgt hl'
            split at e
            · cases e
            · rename_i k'
              have hv : (Node.link tgt).NamesValid :=
                Node.namesValid_get? (Node.namesValid_get? ht hes) (show (Node.dir es).get? [n] = _ by
                  simp [Node.get?, Node.child?, hl'])
              exact openAt_new ht k' tgt r hv e
          · cases e
        · cases e
      · cases e

/-- Where `open(pp/n, "w")` writes when `n` is no link: the file `pp/n` names, or a new file
beside the directory `pp` resolves to. -/
theorem openAt_notLink {t : Node} {k : Nat} {pp r : Path} {n : String} {o : Option String}
    (hl : t.NotLinkIn pp n) (e : openAt t k (pp ++ [n]) = .ok (r, o)) :
    (∃ x, resolve t (pp ++ [n]) = some r ∧ t.get? r = some (.file x) ∧ o = some x) ∨
      (∃ q es, resolve t pp = some q ∧ t.get? q = some (.dir es) ∧ es.lookup n = none ∧ r = q ++ [n] ∧ o = none) := by
  unfold openAt at e
  split at e
  · rename_i q hq
    split at e
    · rename_i x hx; cases e; exact .inl ⟨x, hq, hx, rfl⟩
    · cases e
  · split at e
    · rename_i n' q hn hq
      simp at hn
      subst hn
      rw [List.dropLast_concat] at hq
      split at e
      · rename_i es hes
        split at e
        · cases e; exact .inr ⟨q, es, hq, hes, ‹_›, rfl, rfl⟩
        · rename_i tgt hlk
          exact absurd (by simp [Node.get?_append, hes, Node.get?, Node.child?, hlk]) (hl q hq tgt)
        · cases e
      · cases e
    · cases e

/-- The text of the file at `p` becomes `f` of what it was: `open(p, "w")` / `open(p, "a")`
and one write. A new file starts empty and is owned by `root:root`. -/
def editText (s : Fs) (p : Path) (f : String → String) (hp : ∀ c ∈ p, ValidName c) :
    Except PyError Fs :=
  match h : openAt s.root maxSymlinks p with
  | .ok (q, some x) => .ok { s with
      root := s.root.alter (fun o => o.map fun _ => .file (f x)) q
      valid := Node.namesValid_alter (by rintro (_ | _) _ _ ⟨⟩; trivial) _ _ s.valid (by simp)
      nodup := Node.namesNodup_alter (by rintro (_ | _) _ _ ⟨⟩; trivial) _ _ s.nodup
      rootDir := (Node.kind_alter _ _).trans s.rootDir }
  | .ok (q, none) => .ok {
      root := s.root.alter (fun _ => some (.file (f ""))) q
      owner := Function.update s.owner q Owner.root
      valid := Node.namesValid_alter (by rintro _ _ _ ⟨⟩; trivial) _ _ s.valid (by
        obtain ⟨pp, n, _, rfl, -, -, hn⟩ := openAt_new s.valid _ p q hp h
        simpa using hn)
      nodup := Node.namesNodup_alter (by rintro _ _ _ ⟨⟩; trivial) _ _ s.nodup
      rootDir := (Node.kind_alter _ _).trans s.rootDir }
  | .error e => .error e

/-- `open(p, "w").write(x)`, `p.write_text(x)`. -/
def writeText (s : Fs) (p : Path) (x : String) (hp : ∀ c ∈ p, ValidName c) : Except PyError Fs :=
  s.editText p (fun _ => x) hp

/-- `open(p, "a").write(x)`. -/
def appendText (s : Fs) (p : Path) (x : String) (hp : ∀ c ∈ p, ValidName c) : Except PyError Fs :=
  s.editText p (· ++ x) hp

theorem openAt_of_file {t : Node} {p q : Path} {x : String} (hr : resolve t p = some q)
    (hq : t.get? q = some (.file x)) (k : Nat) : openAt t k p = .ok (q, some x) := by
  unfold openAt; rw [hr]; simp [hq]

/-- Editing a file that `p` names: its owner and every lookup stay, and `p` reads `f` of the old
text. -/
theorem editText_of_file {s s' : Fs} {p : Path} {x : String} {f : String → String}
    {hp : ∀ c ∈ p, ValidName c} (hx : s.readText p = .ok x) (e : s.editText p f hp = .ok s') :
    s.root.SameLinks s'.root ∧ s'.owner = s.owner ∧ s'.readText p = .ok (f x) := by
  obtain ⟨q, hr, hq⟩ := readText_eq_ok.1 hx
  unfold editText at e
  -- `open` finds the file, so only the first arm of the match is taken
  split at e <;> rename_i h <;> rw [openAt_of_file hr hq] at h <;> cases h
  cases e
  have hs := @Node.sameLinks_alter s.root q _ (.file (f x)) hq rfl (by simp) (by simp)
  refine ⟨hs, rfl, readText_eq_ok.2 ⟨q, (resolve_of_sameLinks hs p).trans hr, ?_⟩⟩
  rcases List.eq_nil_or_concat q with rfl | ⟨pp, n, rfl⟩
  · have := s.rootDir
    simp only [Node.get?, Option.some.injEq] at hq
    simp [hq, Node.kind] at this
  · rw [List.concat_eq_append] at hq ⊢
    obtain ⟨es, hpp, hn⟩ := Node.get?_parent hq
    simpa [hn] using Node.get?_alter_append (f := fun o => o.map fun _ => Node.file (f x))
      s.root pp n es [] hpp

/-- **Read after write**: writing `pp/n`, where `n` is no link, `pp/n` then reads what was
written. -/
theorem readText_writeText {s s' : Fs} {pp : Path} {n x : String} {hp : ∀ c ∈ pp ++ [n], ValidName c}
    (hl : s.root.NotLinkIn pp n)
    (e : s.writeText (pp ++ [n]) x hp = .ok s') : s'.readText (pp ++ [n]) = .ok x := by
  have e0 := e
  unfold writeText editText at e
  split at e
  · rename_i q x0 h
    obtain ⟨x1, hr, hq, hx⟩ | ⟨_, _, -, -, -, -, h0⟩ := openAt_notLink hl h
    · cases hx
      exact (editText_of_file (readText_eq_ok.2 ⟨q, hr, hq⟩) e0).2.2
    · cases h0
  · rename_i q h
    obtain ⟨_, -, -, h0⟩ | ⟨q0, es, hq0, hes, hn, rfl, -⟩ := openAt_notLink hl h
    · cases h0
    cases e
    have hget := Node.get?_alter_new (m := .file x) (n := n) hes
    refine readText_eq_ok.2 ⟨q0 ++ [n], ?_, hget⟩
    rw [resolve_append (resolve_of_extends (Node.extends_alter_new hes hn) hq0) (by simp [Node.NotLinkAt, hget]), hget]
    rfl
  · cases e

/-- Writing into a path whose parent is no directory raises `NotADirectoryError`. -/
theorem writeText_of_notDir {s : Fs} {pp : Path} {n x : String} {hp : ∀ c ∈ pp ++ [n], ValidName c} {q : Path}
    (hq : resolve s.root pp = some q) (hd : isDirAt s.root pp = false) :
    s.writeText (pp ++ [n]) x hp = .error (.notADirectory (pp ++ [n])) := by
  obtain ⟨hs, hl⟩ := s.resolve_notLink hq
  obtain ⟨m, hm⟩ := Option.isSome_iff_exists.1 hs
  -- what `pp` names is a regular file
  obtain ⟨y, rfl⟩ : ∃ y, m = .file y := by
    cases m with
    | file y => exact ⟨y, rfl⟩
    | dir es => simp [isDirAt, nodeAt, hq, hm] at hd
    | link tgt => exact absurd hm (hl tgt)
  have hnone : s.root.get? (q ++ [n]) = none := by rw [Node.get?_append, hm]; rfl
  have ho : openAt s.root maxSymlinks (pp ++ [n]) = .error (.notADirectory (pp ++ [n])) := by
    unfold openAt
    rw [resolve_append hq (fun tgt h => by simp [hnone] at h), hnone]
    simp [hq, hm]
  unfold writeText editText
  split <;> rename_i h <;> rw [ho] at h <;> cases h
  rfl

/-- `open` writes only into a file that is there, or a new one. -/
theorem openAt_file {t : Node} : ∀ (k : Nat) (p q : Path) (x : String), openAt t k p = .ok (q, some x) →
    t.get? q = some (.file x) := by
  intro k
  induction k with
  | zero =>
    intro p q x e
    unfold openAt at e
    split at e
    · split at e
      · cases e; assumption
      · cases e
    · split at e
      · split at e
        · split at e
          · cases e
          · cases e
          · cases e
        · cases e
      · cases e
  | succ k ih =>
    intro p q x e
    unfold openAt at e
    split at e
    · split at e
      · cases e; assumption
      · cases e
    · split at e
      · split at e
        · split at e
          · cases e
          · exact ih _ q x e
          · cases e
        · cases e
      · cases e

/-- A write changes no lookup. -/
theorem editText_extends {s s' : Fs} {p : Path} {f : String → String} {hp : ∀ c ∈ p, ValidName c}
    (e : s.editText p f hp = .ok s') : s.root.Extends s'.root := by
  unfold editText at e
  split at e
  · rename_i q x h
    cases e
    exact (Node.sameLinks_alter (openAt_file _ _ _ _ h) (show _ = (Node.file (f x)).kind.target? from rfl)
      (by simp) (by simp)).extends
  · rename_i q h
    cases e
    obtain ⟨pp, n, es, rfl, hpp, hn, -⟩ := openAt_new s.valid _ p q hp h
    exact Node.extends_alter_new hpp hn
  · cases e

/-- **Frame of a write**, at canonical paths: writing `pp/n`, where `n` is no link, keeps every
file that `pp/n` does not resolve to. -/
theorem editText_get?_other {s s' : Fs} {pp : Path} {n : String} {f : String → String}
    {hp : ∀ c ∈ pp ++ [n], ValidName c} {r : Path} {y : String} (hl : s.root.NotLinkIn pp n)
    (e : s.editText (pp ++ [n]) f hp = .ok s') (hry : s.root.get? r = some (.file y))
    (hne : resolve s.root (pp ++ [n]) ≠ some r) : s'.root.get? r = some (.file y) := by
  have hfile : ∀ q, s.root.get? q = none ∨ (∃ x, s.root.get? q = some (.file x) ∧ q ≠ r) → ¬ q <+: r := by
    rintro q hq ⟨d, rfl⟩
    cases d with
    | nil => rcases hq with hq | ⟨x, -, hne'⟩
             · simp [hq] at hry
             · exact hne' (by simp)
    | cons c d =>
      rcases hq with hq | ⟨x, hx, -⟩
      · rw [Node.get?_eq_none_below hq ⟨c :: d, rfl⟩] at hry; cases hry
      · rw [Node.get?_append, hx] at hry; simp [Node.get?, Node.child?] at hry
  unfold editText at e
  split at e
  · rename_i q x h
    cases e
    obtain ⟨x1, hq1, hqx, -⟩ | ⟨_, _, -, -, -, -, h0⟩ := openAt_notLink hl h
    · rw [← Node.get?_eq_file, Node.kindAt_alter_outside _ _ _
        (hfile q (.inr ⟨x1, hqx, fun hq => hne (by rw [hq1, hq])⟩)), Node.get?_eq_file]
      exact hry
    · cases h0
  · rename_i q h
    cases e
    obtain ⟨_, -, -, h0⟩ | ⟨q0, es, -, hes, hn, rfl, -⟩ := openAt_notLink hl h
    · cases h0
    · have hnone : s.root.get? (q0 ++ [n]) = none := by rw [Node.get?_append, hes]; simpa [Node.get?, Node.child?] using hn
      rw [← Node.get?_eq_file, Node.kindAt_alter_outside _ _ _ (hfile _ (.inl hnone)), Node.get?_eq_file]
      exact hry
  · cases e

/-! ## Keeping a file -/

/-- `s'` changes no lookup of `s`, and every file named `f` keeps its text. -/
def Keeps (f : String) (s s' : Fs) : Prop :=
  s.root.Extends s'.root ∧
    ∀ q x, s.root.get? (q ++ [f]) = some (.file x) → s'.root.get? (q ++ [f]) = some (.file x)

theorem Keeps.refl (f : String) (s : Fs) : s.Keeps f s :=
  ⟨fun p k hk => by rw [hk]; rfl, fun _ _ h => h⟩

theorem Keeps.trans {f : String} {s s' s'' : Fs} (h : s.Keeps f s') (h' : s'.Keeps f s'') : s.Keeps f s'' :=
  ⟨h.1.trans h'.1, fun q x hq => h'.2 q x (h.2 q x hq)⟩

/-- A write to `pp/n`, `n` no link, keeps every file named `f` when `f` is another name or when
`pp/n` named nothing, the write then making a new file. -/
theorem editText_keeps {s s' : Fs} {p pp : Path} {n f : String} {g : String → String}
    {hp : ∀ c ∈ p, ValidName c} (hpn : p = pp ++ [n]) (hl : s.root.NotLinkIn pp n)
    (e : s.editText p g hp = .ok s') (hf : n ≠ f ∨ resolve s.root p = none) : s.Keeps f s' := by
  subst hpn
  refine ⟨editText_extends e, fun q x hq => editText_get?_other hl e hq fun h => ?_⟩
  rcases hf with hf | hf
  · obtain ⟨q', -, hq'⟩ := resolve_last hl h
    exact hf (by simpa using (congrArg List.getLast? hq').symm)
  · rw [hf] at h; cases h

/-- A file named `f`, `f` no link, reads the same after a step that keeps files named `f`. -/
theorem Keeps.readText {f : String} {s s' : Fs} {pp : Path} {x : String} (hk : s.Keeps f s')
    (hl : s.root.NotLinkIn pp f) (hx : s.readText (pp ++ [f]) = .ok x) : s'.readText (pp ++ [f]) = .ok x := by
  obtain ⟨r, hr, hrx⟩ := readText_eq_ok.1 hx
  obtain ⟨q, -, rfl⟩ := resolve_last hl hr
  exact readText_eq_ok.2 ⟨_, resolve_of_extends hk.1 hr, hk.2 q x hrx⟩

/-- Writing `pp/n` keeps the text of every file `p'/n'` of another name, neither name a link. -/
theorem editText_other_name {s s' : Fs} {pp p' : Path} {n n' : String} {f : String → String}
    {hp : ∀ c ∈ pp ++ [n], ValidName c} {y : String}
    (hl : s.root.NotLinkIn pp n)
    (hl' : s.root.NotLinkIn p' n') (hn : n' ≠ n)
    (e : s.editText (pp ++ [n]) f hp = .ok s') (hy : s.readText (p' ++ [n']) = .ok y) :
    s'.readText (p' ++ [n']) = .ok y :=
  (editText_keeps rfl hl e (.inl (Ne.symm hn))).readText hl' hy

theorem readText_of_grows {s s' : Fs} {p : Path} {x : String} (hg : s.Grows s') (hx : s.readText p = .ok x) :
    s'.readText p = .ok x := by
  obtain ⟨q, hr, hq⟩ := readText_eq_ok.1 hx
  exact readText_eq_ok.2 ⟨q, resolve_of_extends hg.1 hr, hg.2 q x hq⟩

theorem create_grows {s s' : Fs} {p : Path} {m : Node} {hm : m.NamesValid} {hn : m.NamesNodup} {hp : ∀ c ∈ p, ValidName c}
    (e : s.create p m hm hn hp = .ok s') : s.Grows s' := by
  unfold create at e
  split at e
  · split at e
    · split at e
      · cases e
      · cases e
        rename_i hpp _
        exact Node.grows_alter_new hpp (Option.not_isSome_iff_eq_none.1 (by assumption))
    · cases e
  · cases e

/-- After `create`, `lstat` finds the new entry at `p`. -/
theorem create_lstat {s s' : Fs} {p : Path} {m : Node} {hm : m.NamesValid} {hn : m.NamesNodup} {hp : ∀ c ∈ p, ValidName c}
    (e : s.create p m hm hn hp = .ok s') : (lresolve s'.root p).bind s'.root.get? = some m := by
  unfold create at e
  split at e
  · rename_i n q hl hq
    split at e
    · rename_i es hes
      split at e
      · cases e
      · rename_i hn
        cases e
        have hn' : es.lookup n = none := Option.not_isSome_iff_eq_none.1 hn
        simp [lresolve, hl, resolve_of_extends (Node.extends_alter_new hes hn') hq, Node.get?_alter_new hes]
    · cases e
  · cases e

/-- `create` of the entry `n` of a directory `stat` reaches: `FileExistsError` when the name is
taken, whatever holds it; a new entry when it is free. -/
theorem create_entry {s : Fs} {pp q : Path} {n : String} {es : List (String × Node)} {m : Node}
    {hm : m.NamesValid} {hn : m.NamesNodup} {hp : ∀ c ∈ pp ++ [n], ValidName c} (hq : resolve s.root pp = some q)
    (hes : s.root.get? q = some (.dir es)) :
    ((es.lookup n).isSome → s.create (pp ++ [n]) m hm hn hp = .error (.fileExists (pp ++ [n]))) ∧
      (es.lookup n = none → ∃ s', s.create (pp ++ [n]) m hm hn hp = .ok s') := by
  unfold create
  split
  · rename_i n' q' hl hq'
    simp only [List.getLast?_concat, Option.some.injEq, List.dropLast_concat] at hl hq'
    subst hl
    rw [hq] at hq'; cases hq'
    constructor <;> intro h <;> simp [hes, h]
  · rename_i h
    exact absurd (h n q (by simp) (by simpa using hq)) (by simp)

theorem create_taken {s : Fs} {pp r : Path} {n : String} {m : Node} {hm : m.NamesValid} {hn : m.NamesNodup}
    {hp : ∀ c ∈ pp ++ [n], ValidName c} (hr : lresolve s.root (pp ++ [n]) = some r) :
    s.create (pp ++ [n]) m hm hn hp = .error (.fileExists (pp ++ [n])) :=
  let ⟨_, _, _, hq, hes, hsome, _⟩ := lresolve_some hr
  (create_entry hq hes).1 (by simp [hsome])

/-- `os.mkdir(p)`: a new empty directory. -/
def mkdir (s : Fs) (p : Path) (hp : ∀ c ∈ p, ValidName c) : Except PyError Fs :=
  s.create p (.dir []) (by simp [Node.NamesValid, Node.EntriesValid]) ⟨List.nodup_nil, trivial⟩ hp

/-- One prefix on the way in `os.makedirs`: made unless it exists, a `FileExistsError` passed
over. -/
def makedirStep (s : Fs) (p : Path) (hp : ∀ c ∈ p, ValidName c) : Except PyError Fs :=
  if s.pathExists p then .ok s
  else match s.mkdir p hp with
    | .error (.fileExists _) => .ok s
    | r => r

/-- `os.makedirs(pre ++ rest, exist_ok=True)` once `pre` is there: each prefix on the way is
made if it does not exist, and the whole path must end a directory. Python recurses from the
whole path up to the longest prefix that exists; going forward over the prefixes makes the same
directories. -/
def makedirsFrom (s : Fs) (pre : Path) : (rest : Path) → (∀ c ∈ pre ++ rest, ValidName c) → Except PyError Fs
  | [], _ => .ok s
  | [n], hp => if isDirAt s.root (pre ++ [n]) then .ok s else s.mkdir (pre ++ [n]) hp
  | n :: m :: rest, hp => do
    let s1 ← s.makedirStep (pre ++ [n]) fun c hc => hp c (by simp at hc ⊢; tauto)
    s1.makedirsFrom (pre ++ [n]) (m :: rest) (by simpa using hp)

/-- `os.makedirs(p, exist_ok=True)`, `Path(p).mkdir(parents=True, exist_ok=True)`. -/
def makedirs (s : Fs) (p : Path) (hp : ∀ c ∈ p, ValidName c) : Except PyError Fs :=
  s.makedirsFrom [] p hp

theorem mkdir_grows {s s' : Fs} {p : Path} {hp : ∀ c ∈ p, ValidName c} (e : s.mkdir p hp = .ok s') :
    s.Grows s' :=
  create_grows e

theorem makedirsFrom_grows : ∀ (s : Fs) (pre rest : Path) (hp : ∀ c ∈ pre ++ rest, ValidName c) (s' : Fs),
    s.makedirsFrom pre rest hp = .ok s' → s.Grows s'
  | s, _, [], _, _, e => by cases e; exact Node.Grows.refl _
  | s, pre, [n], hp, s', e => by
    unfold makedirsFrom at e
    split at e
    · cases e; exact Node.Grows.refl _
    · exact mkdir_grows e
  | s, pre, n :: m :: rest, hp, s', e => by
    unfold makedirsFrom at e
    cases h1 : s.makedirStep (pre ++ [n]) (fun c hc => hp c (by simp at hc ⊢; tauto)) with
    | error _ => rw [h1] at e; cases e
    | ok s1 =>
      rw [h1] at e
      refine Node.Grows.trans ?_ (makedirsFrom_grows s1 _ _ _ s' e)
      unfold makedirStep at h1
      split at h1
      · cases h1; exact Node.Grows.refl _
      · split at h1
        · cases h1; exact Node.Grows.refl _
        · exact mkdir_grows h1

theorem makedirs_grows {s s' : Fs} {p : Path} {hp : ∀ c ∈ p, ValidName c} (e : s.makedirs p hp = .ok s') :
    s.Grows s' :=
  makedirsFrom_grows s [] p hp s' e

end Fs

end SlurmSetup
