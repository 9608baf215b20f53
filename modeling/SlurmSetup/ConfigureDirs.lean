import SlurmSetup.Host

/-!
# `configure_dirs` (`setup.py:345-371`)

The directories of `dirs` and `slurmdirs` are made and given to slurm, three links are made,
and `sort_nodes.py` is copied into `{slurmdirs.prefix}/bin`.

The link loop removes what is at a link path only when `sl.exists() and sl.is_symlink()`.
`exists()` follows the link, so a dangling link stays where it is, and `symlink_to` then raises
`FileExistsError`. The same holds for a file or a real directory at the link path; a turn that
returns leaves a link to its target there.
-/

namespace SlurmSetup

/-- A link to make: where, and to what; both are paths of file names. -/
structure LinkPair where
  sl : Path
  tgt : Path
  sl_valid : ∀ c ∈ sl, ValidName c
  tgt_valid : ∀ c ∈ tgt, ValidName c

/-- The links of `configure_dirs` (`setup.py:357-360`). -/
def dirLinks (d : Dirs) : List LinkPair :=
  [⟨["etc", "slurm"], d.etc, by decide, d.valid _ (by simp)⟩,
   ⟨d.scripts ++ ["etc"], d.etc, valid_append (d.valid _ (by simp)) (by decide), d.valid _ (by simp)⟩,
   ⟨d.scripts ++ ["log"], d.log, valid_append (d.valid _ (by simp)) (by decide), d.valid _ (by simp)⟩]

/-- One turn of the link loop (`setup.py:361-363`). -/
def relink (fs : Fs) (l : LinkPair) : Except PyError Fs := do
  let fs ← if fs.pathExists l.sl && fs.isSymlink l.sl then fs.unlink l.sl else pure fs
  fs.symlinkTo l.sl l.tgt l.sl_valid l.tgt_valid

/-- The link loop of `configure_dirs`. -/
def linkDirs (d : Dirs) (fs : Fs) : Except PyError Fs := (dirLinks d).foldlM relink fs

/-- `/etc/slurm` is a dangling link to `/gone`; slurm's scripts directory is `/s/scripts`. -/
def danglingEtcFs : Fs where
  root := .dir [("etc", .dir [("slurm", .link ["gone"])]), ("e", .dir []), ("s", .dir [("scripts", .dir [])])]
  owner := fun _ => Owner.root
  valid := by simp [Node.NamesValid, Node.EntriesValid, ValidName]
  nodup := by simp [Node.NamesNodup, Node.EntriesNamesNodup]
  rootDir := rfl

/-- The dangling link is neither removed nor replaced: `symlink_to` raises. -/
theorem linkDirs_dangling : linkDirs smallDirs danglingEtcFs = .error (.fileExists ["etc", "slurm"]) := rfl

/-! ## One turn of the link loop -/

/-- **One turn of the link loop**, on any filesystem: when it returns, `lstat` finds a link to `tgt`
at `sl`; when `lstat` finds there anything but a link `stat` can follow (a file, a directory, a
dangling link), it raises `FileExistsError`; when the name is free in a directory, it returns. -/
theorem relink_spec (fs : Fs) (l : LinkPair) (hsl : l.sl ≠ []) :
    (∀ fs', relink fs l = .ok fs' → (lresolve fs'.root l.sl).bind fs'.root.get? = some (.link l.tgt)) ∧
    (∀ m, (lresolve fs.root l.sl).bind fs.root.get? = some m → (∀ tgt, m ≠ .link tgt) ∨ fs.pathExists l.sl = false →
      relink fs l = .error (.fileExists l.sl)) ∧
    (isDirAt fs.root l.sl.dropLast = true → lresolve fs.root l.sl = none → ∃ fs', relink fs l = .ok fs') := by
  obtain ⟨sl, tgt, hslv, htgt⟩ := l
  dsimp only at hsl ⊢
  obtain ⟨pp, n, rfl⟩ : ∃ pp n, sl = pp ++ [n] := ⟨_, _, (List.dropLast_concat_getLast hsl).symm⟩
  refine ⟨fun fs' e => ?_, fun m hm hk => ?_, fun hd hl => ?_⟩
  · -- returned: the last step was `symlink_to`
    rw [relink] at e
    split at e <;> obtain ⟨fs1, -, e⟩ := bind_eq_ok.1 e <;> exact Fs.create_lstat e
  · -- taken: nothing is unlinked, and `symlink_to` finds the name taken
    obtain ⟨r, hr, hg⟩ := Option.bind_eq_some.1 hm
    have hskip : (fs.pathExists (pp ++ [n]) && fs.isSymlink (pp ++ [n])) = false := by
      rcases hk with hk | hk
      · cases m <;> simp_all [Fs.isSymlink, Node.kindAt, Node.kind]
      · simp [hk]
    simp only [relink, hskip, Bool.false_eq_true, if_false, pure_bind]
    exact Fs.create_taken hr
  · -- free: nothing to unlink, and `symlink_to` goes through
    simp only [List.dropLast_concat, isDirAt] at hd
    split at hd
    · rename_i es hnode
      obtain ⟨q, hq, hes⟩ := Option.bind_eq_some.1 hnode
      have hnone : fs.root.get? (q ++ [n]) = none := by simpa [lresolve, hq] using hl
      have hnl : fs.root.NotLinkAt (q ++ [n]) := fun tgt h => by rw [hnone] at h; cases h
      have hres : fs.pathExists (pp ++ [n]) = false := by
        simp [Fs.pathExists, resolve_append hq hnl, hnone]
      simp only [relink, hres, Bool.false_and, Bool.false_eq_true, if_false, pure_bind]
      exact (Fs.create_entry hq hes).2 (by simpa [Node.get?_append, hes, Node.get?, Node.child?] using hnone)
    · cases hd

/-- Every link of `configure_dirs` is in place: `lstat` of its path finds a link to its target. -/
def LinksInPlace (d : Dirs) (t : Node) : Prop :=
  ∀ l ∈ dirLinks d, (lresolve t l.sl).bind t.kindAt = some (.link l.tgt)

instance (d : Dirs) (t : Node) : Decidable (LinksInPlace d t) := inferInstanceAs (Decidable (∀ l ∈ dirLinks d, _))

theorem LinksInPlace.of_extends {d : Dirs} {t t' : Node} (h : LinksInPlace d t) (hx : t.Extends t') :
    LinksInPlace d t' :=
  fun l hl => hx.lstat_link (h l hl)

/-- `/etc/slurm` is a real directory, as a slurm package leaves it. -/
def etcDirFs : Fs where
  root := .dir [("etc", .dir [("slurm", .dir [])])]
  owner := fun _ => Owner.root
  valid := by simp [Node.NamesValid, Node.EntriesValid, ValidName]
  nodup := by simp [Node.NamesNodup, Node.EntriesNamesNodup]
  rootDir := rfl

theorem relink_spec_etcDir :
    relink etcDirFs ⟨["etc", "slurm"], ["e"], by decide, by decide⟩ = .error (.fileExists ["etc", "slurm"]) :=
  (relink_spec etcDirFs _ (by simp)).2.1 (.dir []) rfl (.inl fun _ => by simp)

end SlurmSetup
