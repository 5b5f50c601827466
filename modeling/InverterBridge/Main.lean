import InverterBridge.CommandLine
import InverterBridge.Config.Load

/-!
# The program

The program reads its configuration, checks it and tells what it would poll and
where it would publish.
-/

namespace InverterBridge

/-- Where a configuration is looked for unless the command line says otherwise. -/
def standardConfigPath : String := "sunspec.json5"

/-- What a configuration asks for, line by line. -/
def BridgeConfig.summary (config : BridgeConfig) : List String :=
  let device := config.poll.device
  let space := TopicSpace.ofRoot config.poll.topicRoot
  ("device " ++ device.name ++ " at " ++ device.connection.text) ::
    (Channel.all.map fun channel => channel.name ++ " on " ++ space.key device.name channel) ++
    ["status on " ++ space.statusKey]

/-- How the program is called. -/
def usage : String :=
  "usage: [--config <path>] [--log-level <level>]"

/-- The number of the error for a directory that is read like a file. -/
def directoryCode : UInt32 := 21

/-- What stands at a path.  Below something that is no directory there is nothing. -/
def contentOf (path : String) : IO FileContent := do
  try
    return .bytes (← IO.FS.readBinFile path)
  catch error =>
    match error with
    | .noFileOrDirectory .. => return .missing
    | .inappropriateType _ code _ =>
        return if code = directoryCode then .directory else .missing
    | other => return .unreadable (toString other)

/-- Read and check a configuration, and tell what it asks for. -/
def check (path : String) : IO UInt32 := do
  match (Configuration.load path (← contentOf path) : Except BridgeError BridgeConfig) with
  | .error error =>
      IO.eprintln error.message
      return 1
  | .ok config =>
      config.summary.forM fun line => IO.println line
      return 0

end InverterBridge

open InverterBridge in
/-- Read the command line and follow it. -/
def main (words : List String) : IO UInt32 := do
  match CommandLine.parse words standardConfigPath with
  | .error fault =>
      IO.eprintln (fault.message ++ "\n" ++ usage)
      return 2
  | .ok (.run arguments) => check arguments.config
  | .ok _ =>
      IO.println usage
      return 0
