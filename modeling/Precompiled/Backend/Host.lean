import Precompiled.Backend.Library

/-!
# A host with the C library

A machine on which one library can be opened. It and the running process have two routines on
memory, the first of which tells how long a text is.
-/

namespace Precompiled.Host

def cLibrary : String := "libc.so.6"

def textLengthSymbol : String := "strlen"

def cExports (symbol : String) : Option EntryPoint :=
  if symbol = textLengthSymbol then EntryPoint.at? 0x7F0000001000
  else if symbol = "memcpy" then EntryPoint.at? 0x7F0000002000
  else none

def standard : Host where
  arch := "x86_64"
  process := cExports
  library path :=
    if path = cLibrary then .ok cExports
    else .error s!"{path}: cannot open shared object file: No such file or directory"

/-- The length of a text in memory, where a NUL byte ends it. -/
def textLength (memory : Bytes) : Nat := (memory.takeWhile (· ≠ 0)).length

end Precompiled.Host
