import SlurmSetup.Basic
import SlurmSetup.Fs
import SlurmSetup.Walk
import SlurmSetup.Files
import SlurmSetup.Chown
import SlurmSetup.LazyWalk
import SlurmSetup.CloudOps
import SlurmSetup.Host
import SlurmSetup.Migrate
import SlurmSetup.Fstab
import SlurmSetup.ConfigureDirs
import SlurmSetup.Scripts
import SlurmSetup.GetConfig
import SlurmSetup.Main
import SlurmSetup.Commands
import SlurmSetup.Effects
import SlurmSetup.Rerun
