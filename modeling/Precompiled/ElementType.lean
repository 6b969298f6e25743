/-!
# Element types

The types of numbers that kernels take as arguments and fields hold.
-/

namespace Precompiled

inductive ElementType where
  | i8 | i16 | i32 | i64
  | u8 | u16 | u32 | u64
  | f16 | f32 | f64
  deriving DecidableEq, Repr

namespace ElementType

def all : List ElementType := [.i8, .i16, .i32, .i64, .u8, .u16, .u32, .u64, .f16, .f32, .f64]

def tag : ElementType → String
  | .i8 => "i8"
  | .i16 => "i16"
  | .i32 => "i32"
  | .i64 => "i64"
  | .u8 => "u8"
  | .u16 => "u16"
  | .u32 => "u32"
  | .u64 => "u64"
  | .f16 => "f16"
  | .f32 => "f32"
  | .f64 => "f64"

def size : ElementType → UInt64
  | .i8 | .u8 => 1
  | .i16 | .u16 | .f16 => 2
  | .i32 | .u32 | .f32 => 4
  | .i64 | .u64 | .f64 => 8

def ofTag? : String → Option ElementType
  | "i8" => some .i8
  | "i16" => some .i16
  | "i32" => some .i32
  | "i64" => some .i64
  | "u8" => some .u8
  | "u16" => some .u16
  | "u32" => some .u32
  | "u64" => some .u64
  | "f16" => some .f16
  | "f32" => some .f32
  | "f64" => some .f64
  | _ => none

def unknownTag (tag : String) : String := s!"unknown type tag `{tag}`"

theorem mem_all (t : ElementType) : t ∈ all := by cases t <;> decide

theorem ofTag?_tag (t : ElementType) : ofTag? t.tag = some t := by cases t <;> rfl

theorem tag_inj {a b : ElementType} (h : a.tag = b.tag) : a = b :=
  Option.some.inj ((ofTag?_tag a).symm.trans (h ▸ ofTag?_tag b))

theorem tag_of_ofTag? {text : String} {t : ElementType} (h : ofTag? text = some t) :
    t.tag = text := by
  unfold ofTag? at h
  split at h <;> first | (injection h with h; subst h; rfl) | contradiction

end ElementType
end Precompiled
