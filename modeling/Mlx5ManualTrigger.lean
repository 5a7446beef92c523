import Mlx5ManualTrigger.Bytes
import Mlx5ManualTrigger.Resources
import Mlx5ManualTrigger.RingIndex
import Mlx5ManualTrigger.PollCq
import Mlx5ManualTrigger.CqRing
import Mlx5ManualTrigger.LocalWrite
import Mlx5ManualTrigger.SendRing
import Mlx5ManualTrigger.Program
import Mlx5ManualTrigger.DataPath
import Mlx5ManualTrigger.Progress
import Mlx5ManualTrigger.Lifecycle
import Mlx5ManualTrigger.Connect
import Mlx5ManualTrigger.Args
import Mlx5ManualTrigger.Main
