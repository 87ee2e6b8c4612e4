import OfficeSchema.CommandLine.Run

namespace OfficeSchema.CommandLine

def Command.paths : Command → List String
  | .inspect i => i.catalog.toList
  | .validate v => v.catalog.toList ++ v.files

def readAll : List String → IO (List (String × String))
  | [] => pure []
  | path :: paths => do
      let content? ← try some <$> IO.FS.readFile path catch _ => pure none
      let rest ← readAll paths
      pure (match content? with
        | some content => (path, content) :: rest
        | none => rest)

def writeReply (r : Reply) : IO UInt32 := do
  IO.print r.out
  IO.eprint r.err
  pure (UInt32.ofNat r.code)

end OfficeSchema.CommandLine

open OfficeSchema.CommandLine in
def main (args : List String) : IO UInt32 :=
  match Command.ofArguments args with
  | .error stop => writeReply stop.reply
  | .ok command => do
      let contents ← readAll command.paths
      writeReply (command.run (fun path => contents.lookup path))
