import Mathlib.Data.List.Infix
import Mathlib.Logic.Function.Basic

/-!
# Basic data of `setup.py`

| here | there |
| --- | --- |
| `Path`, `Path.str` | `pathlib.Path`, `str(p)` of an absolute path |
| `Owner` | `st_uid` / `st_gid` of an entry, the `pwd` / `grp` ids of a user |
| `PyError` | the exceptions `setup.py` raises or lets through |
| `readlines` | `f.readlines()` (`setup.py:195`, `:217`) |
| `strContains` | `sub in s` on strings (`setup.py:156-160`, `:190`, `:405`) |
| `pyStrip` | `s.strip()` (`setup.py:188-189`) |
| `chownArg` | how `os.chown` reads one id argument (`setup.py:478`) |
| `Dirs` | util's `dirs` / `slurmdirs` tables (not under src/: parameters) |
| `Config`, `Lookup` | the fields of `lookup()` and `lookup().cfg` that `setup.py` reads |

A path is the list of its components, `/etc/fstab` is `["etc", "fstab"]`. Symbolic link
targets are absolute paths too; relative targets are not modelled.
-/

namespace SlurmSetup

/-- An absolute path, as the list of its components. -/
abbrev Path := List String

/-- The characters of `str(p)` for `p ≠ /`: each component preceded by `/`. -/
def Path.chars (p : Path) : List Char := p.flatMap fun c => '/' :: c.toList

/-- `str(p)` of an absolute `pathlib.Path`. -/
def Path.str (p : Path) : String := if p = [] then "/" else ⟨p.chars⟩

/-- A component a filesystem can hold: non-empty and without `/`. -/
def ValidName (c : String) : Prop := c ≠ "" ∧ '/' ∉ c.toList

instance (c : String) : Decidable (ValidName c) := inferInstanceAs (Decidable (_ ∧ _))

/-- Owner of an entry (`st_uid`, `st_gid`), or the ids of a user in `pwd` / `grp`. -/
structure Owner where
  uid : Nat
  gid : Nat
deriving DecidableEq, Repr

/-- `root:root`, the owner of what the (root) bootstrap process creates. -/
def Owner.root : Owner := ⟨0, 0⟩

/-- The exceptions that end a step of `setup.py`. -/
inductive PyError where
  /-- `FileNotFoundError` (`ENOENT`) from a path lookup. -/
  | notFound (p : Path)
  /-- `NotADirectoryError` (`ENOTDIR`): a component before the last names no directory. -/
  | notADirectory (p : Path)
  /-- `OSError` (`ELOOP`): more links than one lookup follows. -/
  | symlinkLoop (p : Path)
  /-- `FileExistsError` from `symlink_to`. -/
  | fileExists (p : Path)
  /-- `IsADirectoryError` / `PermissionError` from `unlink` of a directory. -/
  | isADirectory (p : Path)
  /-- `OverflowError` from `os.chown` for an id outside `uid_t`. -/
  | overflow (v : Int)
  /-- `KeyError` from indexing a mapping. -/
  | keyError (key : String)
  /-- `TypeError` / `AttributeError`: an operation on a value of the wrong type. -/
  | typeError (msg : String)
  /-- `subprocess.CalledProcessError` from `check_returncode()`. -/
  | calledProcessError (cmd : String) (returncode : Nat)
  /-- `subprocess.TimeoutExpired`. -/
  | timeoutExpired (cmd : String) (timeout : Option Nat)
  /-- `OSError` from starting a command (not executable). -/
  | osError (cmd : String)
  /-- Any other exception, with its text. -/
  | other (msg : String)
  /-- `Exception("Cannot determine system configuration directory.")`. -/
  | noConfDir
  /-- util's `DeffetiveStoredConfigError`: the stored configuration is not there yet. -/
  | deffetiveStoredConfig (msg : String)
deriving DecidableEq, Repr

/-- `logging` levels (`log.fatal` is `critical`). -/
inductive Level where
  | debug | info | warning | error | critical
deriving DecidableEq, Repr

/-- One log record. -/
structure LogRecord where
  level : Level
  msg : String
deriving DecidableEq, Repr

/-! ## Python helpers -/

/-- `readlines()` on the characters of a text: every line keeps its `\n`, the last may lack it. -/
def readlinesChars : List Char → List (List Char)
  | [] => []
  | c :: cs =>
    if c = '\n' then ['\n'] :: readlinesChars cs
    else match readlinesChars cs with
      | [] => [[c]]
      | l :: ls => (c :: l) :: ls

/-- What reading a file in text mode returns (`newline=None`, universal newlines): `\r\n` and a
lone `\r` each become `\n`. -/
def universalNewlines : List Char → List Char
  | [] => []
  | '\r' :: '\n' :: cs => '\n' :: universalNewlines cs
  | '\r' :: cs => '\n' :: universalNewlines cs
  | c :: cs => c :: universalNewlines cs

/-- `f.readlines()` of a file opened with `open(p, "r")`. -/
def readlines (s : String) : List String := (readlinesChars (universalNewlines s.toList)).map String.mk

/-- The last character read is the last character, a `\r` read as `\n`. -/
theorem universalNewlines_getLast? (cs : List Char) :
    (universalNewlines cs).getLast? = cs.getLast?.map fun c => if c = '\r' then '\n' else c := by
  induction cs using universalNewlines.induct with
  | case1 => rfl
  | case2 cs ih =>
    cases cs with
    | nil => rfl
    | cons c cs => simp_all [universalNewlines, List.getLast?_cons]
  | case3 cs hcs ih =>
    cases cs with
    | nil => rfl
    | cons c cs =>
      have hc : c ≠ '\n' := fun h => hcs cs (h ▸ rfl)
      simp_all [universalNewlines, List.getLast?_cons]
  | case4 c cs _ hc ih =>
    cases cs with
    | nil => simp [universalNewlines, if_neg hc]
    | cons c' cs => simp_all [universalNewlines, List.getLast?_cons]

theorem readlinesChars_eq_nil {cs : List Char} : readlinesChars cs = [] ↔ cs = [] := by
  cases cs with
  | nil => simp [readlinesChars]
  | cons c cs =>
    simp only [readlinesChars, reduceCtorEq, iff_false]
    split
    · simp
    · split <;> simp

/-- A text that ends in a newline has no line without one. -/
theorem newline_mem_of_readlinesChars :
    ∀ {cs : List Char}, cs.getLast? = some '\n' → ∀ l ∈ readlinesChars cs, '\n' ∈ l
  | [], _ => by simp [readlinesChars]
  | c :: cs, h => by
    have ih : cs ≠ [] → ∀ l ∈ readlinesChars cs, '\n' ∈ l := fun hne =>
      newline_mem_of_readlinesChars (by rw [List.getLast?_cons, List.getLast?_eq_getLast cs hne] at h
                                        simpa [List.getLast?_eq_getLast cs hne] using h)
    intro l hl
    simp only [readlinesChars] at hl
    split at hl
    · rcases List.mem_cons.1 hl with rfl | hl
      · simp
      · exact ih (by rintro rfl; simp [readlinesChars] at hl) l hl
    · rename_i hc
      split at hl
      · rename_i hnil
        rw [readlinesChars_eq_nil] at hnil
        subst hnil
        simp at h; exact absurd h hc
      · rename_i l0 ls heq
        have hne : cs ≠ [] := by rintro rfl; simp [readlinesChars] at heq
        rcases List.mem_cons.1 hl with rfl | hl
        · exact List.mem_cons_of_mem _ (ih hne l0 (by rw [heq]; exact List.mem_cons_self _ _))
        · exact ih hne l (by rw [heq]; exact List.mem_cons_of_mem _ hl)

/-- A line without a newline is not a line of a text that ends in one. -/
theorem not_mem_readlines {s e : String} (hs : s.toList.getLast? = some '\n') (he : '\n' ∉ e.toList) :
    e ∉ readlines s := by
  simp only [readlines, List.mem_map, not_exists, not_and]
  rintro l hl rfl
  exact he (newline_mem_of_readlinesChars (by rw [universalNewlines_getLast?, hs]; simp) l hl)

/-- `c.isspace()`: the characters Python counts as whitespace. -/
def pyIsSpace (c : Char) : Bool :=
  ('\t' ≤ c && c ≤ '\r') || ('\x1c' ≤ c && c ≤ ' ') || c = '\x85' || c = '\xa0' || c = '\u1680' ||
    ('\u2000' ≤ c && c ≤ '\u200a') || c = '\u2028' || c = '\u2029' || c = '\u202f' || c = '\u205f' ||
    c = '\u3000'

/-- `s.strip()`: leading and trailing whitespace removed. -/
def pyStrip (s : String) : String :=
  ⟨((s.toList.dropWhile pyIsSpace).reverse.dropWhile pyIsSpace).reverse⟩

/-- `sub in s` for strings. -/
def strContains (s sub : String) : Bool := decide (sub.toList <:+: s.toList)

/-- The largest `uid_t`, `(uid_t)-1`, which `chown(2)` reads as "leave unchanged". -/
def uidMax : Int := 4294967295

/-- How `os.chown` reads one id: `-1` (or `(uid_t)-1`) leaves the id alone, a value in
`uid_t` sets it, anything else raises `OverflowError` before the call. -/
def chownArg (v : Int) : Except PyError (Option Nat) :=
  if v = -1 ∨ v = uidMax then .ok none
  else if 0 ≤ v ∧ v < uidMax then .ok (some v.toNat)
  else .error (.overflow v)

/-- The id `os.chown` leaves on an entry whose id was `cur`, when handed `v`. -/
def setId (v : Int) (cur : Nat) : Nat :=
  match chownArg v with
  | .ok (some n) => n
  | _ => cur

/-- An id `os.chown` accepts without `OverflowError`. -/
def ChownArgOk (v : Int) : Prop := -1 ≤ v ∧ v ≤ uidMax

instance (v : Int) : Decidable (ChownArgOk v) := inferInstanceAs (Decidable (_ ∧ _))

theorem chownArg_ok {v : Int} (h : ChownArgOk v) : ∃ o, chownArg v = .ok o := by
  unfold chownArg
  split
  · exact ⟨_, rfl⟩
  · split
    · exact ⟨_, rfl⟩
    · unfold ChownArgOk at h; omega

theorem setId_idem (v : Int) (cur : Nat) : setId v (setId v cur) = setId v cur := by
  unfold setId; split <;> simp_all

/-- `setId v` either sets one fixed id or keeps every id. -/
theorem setId_const_or_id (v : Int) : (∃ n, ∀ cur, setId v cur = n) ∨ ∀ cur, setId v cur = cur := by
  unfold setId
  rcases h : chownArg v with e | (_ | n)
  · exact .inr fun _ => rfl
  · exact .inr fun _ => rfl
  · exact .inl ⟨n, fun _ => rfl⟩

/-- What a step that returned normally was given. -/
theorem bind_eq_ok {ε α β : Type} {x : Except ε α} {f : α → Except ε β} {b : β} :
    x >>= f = .ok b ↔ ∃ a, x = .ok a ∧ f a = .ok b := by
  cases x <;> simp [bind, Except.bind]

/-- Two continuations that agree on every value the first step can return. -/
theorem bind_congr_ok {ε α β : Type} {x : Except ε α} {f g : α → Except ε β} (h : ∀ a, x = .ok a → f a = g a) :
    x >>= f = x >>= g := by
  cases x with
  | error _ => rfl
  | ok a => exact h a rfl

/-- A reflexive, transitive relation that every step of a fold keeps holds between the fold's
start and its result. -/
theorem foldlM_rel {ε α β : Type} {R : α → α → Prop} (hr : ∀ a, R a a) (ht : ∀ a b c, R a b → R b c → R a c)
    {f : α → β → Except ε α} (hf : ∀ a x a', f a x = .ok a' → R a a') :
    ∀ (L : List β) (a a' : α), L.foldlM f a = .ok a' → R a a'
  | [], a, _, e => by cases e; exact hr a
  | x :: L, a, a', e => by
    rw [List.foldlM_cons] at e
    obtain ⟨a1, e1, e⟩ := bind_eq_ok.1 e
    exact ht _ _ _ (hf _ _ _ e1) (foldlM_rel hr ht hf L a1 a' e)

/-! ## Lookup lemmas -/

section lookup
variable {β : Type} {n k : String} {m : β} {es : List (String × β)}

theorem lookup_cons_ne (h : k ≠ n) : ((n, m) :: es).lookup k = es.lookup k := by
  rw [List.lookup_cons, beq_false_of_ne h]

theorem lookup_append_of_none {l : List (String × β)} (h : es.lookup k = none) :
    (es ++ l).lookup k = l.lookup k := by
  induction es with
  | nil => rfl
  | cons e es ih =>
    obtain ⟨k', m'⟩ := e
    by_cases hk : k = k'
    · subst hk; simp at h
    · simp only [List.cons_append, lookup_cons_ne hk] at h ⊢; exact ih h

theorem lookup_append_of_some {l : List (String × β)} (h : es.lookup k = some m) :
    (es ++ l).lookup k = some m := by
  induction es with
  | nil => simp at h
  | cons e es ih =>
    obtain ⟨k', m'⟩ := e
    by_cases hk : k = k'
    · subst hk; simpa [List.lookup_cons_self] using h
    · simp only [List.cons_append, lookup_cons_ne hk] at h ⊢; exact ih h

theorem lookup_map_replace {m' : β} :
    (es.map fun e => if e.1 = n then (n, m') else e).lookup k =
      if k = n then (es.lookup n).map fun _ => m' else es.lookup k := by
  induction es with
  | nil => split <;> rfl
  | cons e es ih =>
    obtain ⟨k', m''⟩ := e
    by_cases hk' : k' = n
    · subst hk'
      by_cases hk : k = k'
      · subst hk; simp [List.lookup_cons_self]
      · simp [lookup_cons_ne hk, ih, hk]
    · have hn : n ≠ k' := Ne.symm hk'
      by_cases hk : k = k'
      · subst hk; simp [hk', List.lookup_cons_self]
      · simp only [List.map_cons, hk', if_false, lookup_cons_ne hk, ih, lookup_cons_ne hn]

theorem lookup_filter_ne :
    (es.filter (·.1 != n)).lookup k = if k = n then none else es.lookup k := by
  induction es with
  | nil => split <;> rfl
  | cons e es ih =>
    obtain ⟨k', m'⟩ := e
    by_cases hk' : k' = n
    · subst hk'
      simp only [List.filter_cons, bne_self_eq_false, Bool.false_eq_true, if_false, ih]
      split <;> simp_all [lookup_cons_ne]
    · simp only [List.filter_cons, bne_iff_ne, ne_eq, hk', not_false_eq_true, if_true]
      by_cases hk : k = k'
      · subst hk; simp [hk', List.lookup_cons_self]
      · simp only [lookup_cons_ne hk, ih]

theorem mem_of_lookup_eq_some {n : String} {m : β} :
    ∀ {es : List (String × β)}, es.lookup n = some m → (n, m) ∈ es
  | [], h => by simp at h
  | (k, c) :: es, h => by
    by_cases hk : n = k
    · subst hk; rw [List.lookup_cons_self] at h; cases h; simp
    · rw [lookup_cons_ne hk] at h; exact List.mem_cons_of_mem _ (mem_of_lookup_eq_some h)

theorem lookup_eq_none_iff : ∀ {es : List (String × β)}, es.lookup n = none ↔ n ∉ es.map (·.1)
  | [] => by simp
  | (k, c) :: es => by
    by_cases hk : n = k
    · subst hk; simp [List.lookup_cons_self]
    · rw [lookup_cons_ne hk, lookup_eq_none_iff]; simp [hk]

/-- In a listing that names each entry once, every entry is what its name looks up. -/
theorem lookup_of_mem_nodup {n : String} {m : β} :
    ∀ {es : List (String × β)}, (es.map (·.1)).Nodup → (n, m) ∈ es → es.lookup n = some m
  | [], _, h => by simp at h
  | (k, c) :: es, hd, h => by
    rw [List.map_cons, List.nodup_cons] at hd
    rcases List.mem_cons.1 h with he | hmem
    · cases he; exact List.lookup_cons_self ..
    · have hk : n ≠ k := fun e => hd.1 (by subst e; exact List.mem_map_of_mem (·.1) hmem)
      rw [lookup_cons_ne hk]; exact lookup_of_mem_nodup hd.2 hmem

end lookup

/-! ## util's tables and the configuration -/

/-- util's `dirs` and `slurmdirs` (not under src/): the paths `setup.py` uses. -/
structure Dirs where
  /-- `dirs.slurm` -/
  slurm : Path
  /-- `dirs.scripts` -/
  scripts : Path
  /-- `dirs.custom_scripts` -/
  customScripts : Path
  /-- `dirs.log` -/
  log : Path
  /-- `dirs.munge` -/
  munge : Path
  /-- the other `dirs.values()` -/
  others : List Path
  /-- `slurmdirs.prefix` -/
  pfx : Path
  /-- `slurmdirs.etc` -/
  etc : Path
  /-- `slurmdirs.state` -/
  state : Path
  /-- `slurmdirs.home` -/
  home : Path
  /-- every component of every path is a file name -/
  valid : ∀ p ∈ [slurm, scripts, customScripts, log, munge, pfx, etc, state, home] ++ others,
    ∀ c ∈ p, ValidName c

theorem Dirs.state_valid (d : Dirs) : ∀ c ∈ d.state, ValidName c := d.valid _ (by simp)

theorem valid_append {p q : Path} (hp : ∀ c ∈ p, ValidName c) (hq : ∀ c ∈ q, ValidName c) :
    ∀ c ∈ p ++ q, ValidName c :=
  fun c hc => (List.mem_append.1 hc).elim (hp c) (hq c)

/-- `lookup().cfg.hybrid_conf`. -/
structure HybridConf where
  slurmUid : Int
  slurmGid : Int
deriving DecidableEq, Repr

/-- The keys of `lookup().cfg` that `setup.py` reads. -/
structure Config where
  /-- `controller_state_disk.device_name` -/
  stateDiskDevice : Option String
  /-- `cloudsql_secret` (truthiness) -/
  cloudsqlSecret : Option String
  slurmClusterName : String
  hybrid : Bool
  hybridConf : HybridConf
  /-- `slurm_log_dir` -/
  slurmLogDir : Path
  /-- `controller_startup_scripts_timeout`, absent as `none` -/
  controllerTimeout : Option Int
  /-- `compute_startup_scripts_timeout` -/
  computeTimeout : Option Int
  /-- `login_startup_scripts_timeout` -/
  loginTimeout : Option Int
deriving DecidableEq, Repr

/-- `lookup()`: the installed configuration and the instance facts `setup.py` reads. -/
structure Lookup where
  cfg : Config
  instanceRole : String
  controlHost : String
  controlAddr : Option String
  controlHostPort : String
  hostname : String
  hybridSetup : Bool
deriving DecidableEq, Repr

/-- Modelled from the spec: util's `Lookup.is_controller` (not under src/), the role is
`controller`. -/
def Lookup.isController (l : Lookup) : Bool := l.instanceRole == "controller"

/-- Modelled from the spec: util's `Lookup.is_login_node` (not under src/), the role is
`login`. -/
def Lookup.isLoginNode (l : Lookup) : Bool := l.instanceRole == "login"

end SlurmSetup
