import FontPrep.Cli.Run
import FontPrep.FileTree
import FontPrep.NameMap
import FontPrep.Ufo.Load
import FontPrep.Unicode.Compatibility

namespace FontPrep

/-- A file tree and the text printed so far. -/
structure World where
  tree : FileTree
  printed : String := ""

namespace World

def write (path text : String) (world : World) : Except FileError Unit × World :=
  match world.tree.write path text with
  | .ok tree => (.ok (), { world with tree })
  | .error cause => (.error cause, world)

def host : Host (StateM World) where
  ufo path := do return ((← get).tree.package path).bind (·.load path)
  read path := do return (← get).tree.read path
  write path text := fun world => world.write path text
  print text := modify fun world => { world with printed := world.printed ++ text }
  nameMap? := NameMap.ofText?
  decompose := Unicode.decompose

/-- The outcome of a run, and the world it leaves. -/
def run (options : Cli.Options) (world : World) : Except Failure Unit × World :=
  (host.run options).run.run world

def load (path : String) (world : World) : Except Failure Font := ((host.load path).run.run world).1

end World
end FontPrep
