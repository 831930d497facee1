import ImportWeb.Command.Run
import ImportWeb.LogFilter

/-!
What a command tells of its progress: that a project has been scanned, and that a graph has been
written. The messages do not change what the command does.
-/

namespace ImportWeb

/-- What a scan of the project finds, if it comes to one. -/
def Request.survey? (r : Request) (disk : Disk) : Option Survey :=
  match r.registry disk with
  | .error _ => none
  | .ok registry =>
    (disk.survey r.root registry.extensions (r.settings disk).exclusions).toOption

namespace Command

def scanned (s : Survey) : LogEvent where
  level := .info
  target := "codeweb::builder"
  text := "scanned project root=" ++ s.root.toString ++ " files=" ++ toString s.files.length ++
    " skipped=" ++ toString s.skipped.length

def written (target : Path) (g : Graph) : LogEvent where
  level := .info
  target := "codeweb"
  text := "wrote " ++ target.toString ++ " nodes=" ++ toString g.nodeCount ++
    " edges=" ++ toString g.edgeCount

/-- The message of a request after its scan. -/
def scanEvents (r : Request) (disk : Disk) : List LogEvent :=
  ((r.survey? disk).map scanned).toList

/-- The message of a request after its graph has gone to a file. -/
def writeEvents (r : Request) (disk : Disk) (format : Format) (path : Option Path) :
    List LogEvent :=
  match r.web disk with
  | .error _ => []
  | .ok web =>
    match deliver disk format (r.render disk format web) (.file path) with
    | .error _ => []
    | .ok _ => [written (targetOf format path) web.graph]

/-- The messages of a command. -/
def events (disk : Disk) : Command → List LogEvent
  | .graph r _ .standardOutput => scanEvents r disk
  | .graph r format (.file path) => scanEvents r disk ++ writeEvents r disk format path
  | .stats r _ => scanEvents r disk
  | .styles _ => []

end Command

/-- The messages of a command line that are shown, given what the environment asks for. -/
def Invocation.shown (environment : Option String) (disk : Disk) (i : Invocation) :
    List LogEvent :=
  (i.command.events disk).filter (LogFilter.shows (LogFilter.choose i.verbose i.quiet environment))

end ImportWeb
