import NodePolicy.Config.Decode
import NodePolicy.Config.Encode
import NodePolicy.Json.Reader
import NodePolicy.Json.Writer

/-!
Configurations as JSON documents: read from text or bytes, and written in compact or indented form.
-/

namespace NodePolicy.Config

def ofText (document : String) : Except ConfigError Config := do
  decode (← (Json.read document).mapError ConfigError.malformed)

def ofBytes (document : List UInt8) : Except ConfigError Config := do
  decode (← (Json.readBytes document).mapError ConfigError.malformed)

def toText (config : Config) : Except ConfigError String := do
  return (← config.encode).compact

def toIndentedText (config : Config) : Except ConfigError String := do
  return (← config.encode).indented

end NodePolicy.Config
