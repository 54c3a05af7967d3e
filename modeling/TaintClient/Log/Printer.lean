/-
  How notes are written: a note is one line, plain or as a JSON object.
-/
import TaintClient.Json.Text
import TaintClient.Log.Record

namespace TaintClient.Log

/-- A note as a plain line behind the time of day. -/
def Record.plainLine (time : String) (r : Record) : String :=
  time ++ " " ++ r.level.text ++ " " ++ r.source.target ++ " " ++ r.message

/-- A note as a JSON object with the time in milliseconds. -/
def Record.jsonLine (milliseconds : Int) (r : Record) : String :=
  "\x7b\"ts\":" ++ toString milliseconds ++ ",\"level\":\"" ++ r.level.text
    ++ "\",\"target\":\"" ++ r.source.target ++ "\",\"msg\":"
    ++ String.ofList (Json.writeText r.message.toList) ++ "\x7d"

end TaintClient.Log
