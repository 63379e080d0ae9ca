import GpuSharing.Discovery.Source
import GpuSharing.Discovery.ToolReport
import GpuSharing.Host.FileTree

/-!
# Discovery by the management tool

The tool is run with a limit on its time, and its output read as a report.
-/

set_option autoImplicit false

namespace GpuSharing.Tool

def arguments : List String :=
  ["--json", "--showproductname", "--showmeminfo", "vram", "--showuse", "--showtemp",
    "--showpower", "--showcomputepartition", "--showmemorypartition"]

def output (tool : String) (limit : Duration) : CommandEnd → Except DiscoveryError String
  | .notStarted .notFound => .error (.unavailable s!"{tool} is not installed")
  | .notStarted error => .error (.commandFailed tool error.message)
  | .hung => .error (.timeout tool limit)
  | .exited 0 output _ => .ok output
  | .exited status _ complaint =>
      let complaint := Text.trim complaint
      .error (.commandFailed tool s!"exited with exit status: {status}: {complaint}")
  | .killed _ complaint =>
      let complaint := Text.trim complaint
      .error (.commandFailed tool s!"exited with signal: 9 (SIGKILL): {complaint}")

def discover (host : Host) (tool : String) (limit : Duration) : Discovery := do
  ToolReport.parse (← output tool limit (host.run (tool :: arguments)))

def source (host : Host) (tool : String) (limit : Duration) : DiscoverySource :=
  .ofDiscovery "rocm-smi" (discover host tool limit) [tool :: arguments]

end GpuSharing.Tool
