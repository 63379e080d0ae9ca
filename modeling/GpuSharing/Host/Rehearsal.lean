import GpuSharing.Host.Script

/-!
# Rehearsed hosts

A host that is known from its files alone. It has the standard tools and the shell;
other programs are found by their paths.
-/

set_option autoImplicit false

namespace GpuSharing.Host

/-- The status of a shell that finds no script. -/
def scriptMissing : CommandEnd := .exited 127 "" ""

def runShell (files : FileTree) : List String → CommandEnd
  | "-c" :: text :: arguments => Script.runText files text (if arguments.isEmpty then ["sh"] else arguments)
  | script :: arguments =>
      match files.readText script with
      | .ok text => Script.runText files text (script :: arguments)
      | .error _ => scriptMissing
  | [] => .succeeded

def runFile (files : FileTree) (path : String) : CommandEnd :=
  match files.resolve path with
  | .error error => .notStarted error
  | .ok place =>
      match place.node with
      | .program ending => ending
      | _ => .notStarted .permissionDenied

def rehearse (files : FileTree) : List String → CommandEnd
  | [] => .notStarted .notFound
  | "sh" :: arguments => runShell files arguments
  | program :: arguments =>
      if program.contains '/' then runFile files program
      else (Tools.run? files (program :: arguments)).getD (.notStarted .notFound)

def rehearsed (files : FileTree) : Host := { files, run := rehearse files }

end GpuSharing.Host
