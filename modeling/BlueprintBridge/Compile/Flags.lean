import BlueprintBridge.Text.Quoted

/-!
Flag sets: the object flags a collection keeps, and the options of one compilation.

A set is a word of 32 bits. Only some bits have a name; the others are kept as they are. The
names of a set are listed in the order of declaration, what has no name follows as one number.
-/

namespace BlueprintBridge

set_option autoImplicit false

/-- The name of a set type and the names of its bits. -/
structure FlagVocabulary where
  typeName : String
  names : List (String × UInt32)

namespace FlagVocabulary

def known (v : FlagVocabulary) : UInt32 := v.names.foldl (fun bits pair => bits ||| pair.2) 0

/-- The names whose bits are in a set. -/
def namesIn (v : FlagVocabulary) (bits : UInt32) : List String :=
  (v.names.filter fun pair => bits &&& pair.2 = pair.2).map (·.1)

def unknownBits (v : FlagVocabulary) (bits : UInt32) : UInt32 := bits &&& ~~~v.known

/-- The names of a set, then its other bits as one number, joined by bars. -/
def write (v : FlagVocabulary) (bits : UInt32) : String :=
  let rest := v.unknownBits bits
  let parts := v.namesIn bits ++ if rest = 0 then [] else [Text.hexNumber rest.toNat]
  " | ".intercalate parts

def truncate (v : FlagVocabulary) (bits : UInt32) : UInt32 := bits &&& v.known

/-- The set of these bits, if all of them have a name. -/
def ofBits? (v : FlagVocabulary) (bits : UInt32) : Option UInt32 :=
  if v.truncate bits = bits then some bits else none

/-- The named bits that are not in a set. -/
def complement (v : FlagVocabulary) (bits : UInt32) : UInt32 := ~~~bits &&& v.known

def contains (bits other : UInt32) : Bool := bits &&& other = other

def isAll (v : FlagVocabulary) (bits : UInt32) : Bool := contains bits v.known

def intersects (bits other : UInt32) : Bool := bits &&& other ≠ 0

/-- The bits of a set that are not in another. -/
def difference (bits other : UInt32) : UInt32 := bits &&& ~~~other

def render (v : FlagVocabulary) (bits : UInt32) : String :=
  v.typeName ++ "(" ++ (if bits = 0 then "0x0" else v.write bits) ++ ")"

end FlagVocabulary

/-- Flags of engine objects. -/
structure ObjectFlags where
  bits : UInt32
deriving DecidableEq, Repr, Inhabited

namespace ObjectFlags

def vocabulary : FlagVocabulary where
  typeName := "ObjectFlags"
  names := [("PUBLIC", 1), ("STANDALONE", 2), ("TRANSIENT", 8), ("CLASS_DEFAULT_OBJECT", 16),
    ("ARCHETYPE", 32), ("NEWER_VERSION_EXISTS", 64)]

/-- Objects with these flags survive a collection. -/
def keepDuringCollection : ObjectFlags := ⟨2⟩

def render (f : ObjectFlags) : String := vocabulary.render f.bits

instance : ToString ObjectFlags := ⟨render⟩

end ObjectFlags

/-- Options of a single compilation. -/
structure CompileOptions where
  bits : UInt32
deriving DecidableEq, Repr, Inhabited

namespace CompileOptions

def vocabulary : FlagVocabulary where
  typeName := "BlueprintCompileOptions"
  names := [("SKIP_GARBAGE_COLLECTION", 1), ("SKIP_SAVE", 2), ("BATCH_COMPILE", 4),
    ("SKIP_REINSTANCING", 8)]

def none : CompileOptions := ⟨0⟩

/-- No collection after the compilation. -/
def skipGarbageCollection : CompileOptions := ⟨1⟩

def render (o : CompileOptions) : String := vocabulary.render o.bits

instance : ToString CompileOptions := ⟨render⟩

end CompileOptions

end BlueprintBridge
