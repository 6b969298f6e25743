import Precompiled.Backend
import Precompiled.Dict
import Precompiled.Text.Quoted

/-!
# Symbol tables

A backend whose symbols and fields are entered one by one. Entering a name again replaces what it
stood for.
-/

namespace Precompiled

structure SymbolTable where
  name : String
  arch : Option String := none
  symbols : Dict String EntryPoint := []
  fields : Dict String Field := []
  deriving DecidableEq

namespace SymbolTable

def define (t : SymbolTable) (symbol : String) (entry : EntryPoint) : SymbolTable :=
  { t with symbols := Dict.put symbol entry t.symbols }

def undefine (t : SymbolTable) (symbol : String) : SymbolTable :=
  { t with symbols := Dict.erase symbol t.symbols }

def declare (t : SymbolTable) (field : Field) : SymbolTable :=
  { t with fields := Dict.put field.name field t.fields }

def backend (t : SymbolTable) : Backend where
  name := t.name
  arch := t.arch
  resolve := Dict.get? t.symbols
  declared := Dict.get? t.fields

def describe (t : SymbolTable) : String :=
  let arch := match t.arch with
    | none => "None"
    | some arch => s!"Some({Text.quote arch})"
  s!"SymbolTableBackend \x7b name: {Text.quote t.name}, target_arch: {arch}, " ++
    s!"symbols: {t.symbols.length}, fields: {t.fields.length} \x7d"

theorem resolve_define (t : SymbolTable) (symbol other : String) (entry : EntryPoint) :
    (t.define symbol entry).backend.resolve other =
      if symbol = other then some entry else t.backend.resolve other :=
  Dict.get?_put ..

theorem resolve_undefine (t : SymbolTable) (symbol other : String) :
    (t.undefine symbol).backend.resolve other =
      if symbol = other then none else t.backend.resolve other :=
  Dict.get?_erase ..

theorem declared_declare (t : SymbolTable) (field : Field) (other : String) :
    (t.declare field).backend.declared other =
      if field.name = other then some field else t.backend.declared other :=
  Dict.get?_put ..

end SymbolTable
end Precompiled
