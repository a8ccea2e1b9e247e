import Deobfuscator.Connection

/-!
The settings of a server.
-/

namespace Deobfuscator

structure Settings where
  address : Address
  verbose : Bool
  archive : Archive
  cacheSize : Int
  /-- The longest request that is accepted, in bytes. -/
  lineLimit : Int
  deriving DecidableEq, Repr

namespace Settings

/-- What holds when nothing else is asked for. -/
def standard : Settings where
  address := ⟨"127.0.0.1", 50123⟩
  verbose := false
  archive := .standard
  cacheSize := Cache.defaultCapacity
  lineLimit := 1024

def resolver (settings : Settings) : Except Fault Resolver := Resolver.start settings.archive settings.cacheSize

def connection (settings : Settings) (client : Address) : Connection :=
  ⟨client, settings.lineLimit, settings.verbose⟩

def logLevel (settings : Settings) : Level := if settings.verbose then .debug else .info

end Settings

end Deobfuscator
