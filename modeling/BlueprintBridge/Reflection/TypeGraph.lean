import BlueprintBridge.Catalog
import BlueprintBridge.SlotTable
import BlueprintBridge.Reflection.Types

/-!
The type graph: every class, struct, enum, blueprint and package, the names of the first three,
the parent of each class and the links between blueprints and the classes they generate.

`lineage` lists the references met on the way up from a class; a class derives from exactly the
references on it. Operations that can fail give the graph back only when they succeed, except
`generate`, whose steps before the failing one stay done.
-/

namespace BlueprintBridge

set_option autoImplicit false

/-- Why the graph refuses an operation. -/
inductive GraphError where
  /-- A reference to an object of this kind resolves to nothing. -/
  | staleReference (kind : ObjectKind)
  | duplicateType (name : TypeName)
  | typeNotFound (name : TypeName)
  /-- The parent given for this class is not live. -/
  | invalidSuperClass (name : TypeName)
  /-- The parent given for this class derives from it. -/
  | cyclicInheritance (name : TypeName)
deriving DecidableEq, Repr

def GraphError.message : GraphError → String
  | staleReference kind => s!"Stale {kind.word} reference"
  | duplicateType name => s!"Type '{name}' is already registered"
  | typeNotFound name => s!"Type '{name}' not found"
  | invalidSuperClass name => s!"Super class of '{name}' is not a live class"
  | cyclicInheritance name =>
    s!"Class '{name}' cannot derive from itself or one of its descendants"

/-- Every reflected object. -/
structure TypeGraph where
  classes : SlotTable .managedClass ManagedClass
  structs : SlotTable .managedStruct ManagedStruct
  enums : SlotTable .managedEnum ManagedEnum
  blueprints : SlotTable .blueprint Blueprint
  packages : SlotTable .package Package
  classNames : Catalog TypeName ClassRef
  structNames : Catalog TypeName StructRef
  enumNames : Catalog TypeName EnumRef
  /-- The root that every class derives from. -/
  objectClass : ClassRef
  /-- The base of all components. -/
  componentClass : ClassRef

/-- What the type generator says about a class. -/
structure ClassDefinition where
  name : TypeName
  /-- The name of the parent; without one the class derives from the root. -/
  superName : Option TypeName := none
  /-- The blueprint the class is generated for. -/
  blueprint : Option BlueprintRef := none
deriving DecidableEq, Repr

namespace TypeGraph

def engineAssembly : String := "Engine"

def objectName : TypeName := ⟨engineAssembly, "", "Object"⟩

def componentName : TypeName := ⟨engineAssembly, "", "ActorComponent"⟩

/-- The graph with the root class and the component base, and nothing else. -/
def initial : TypeGraph :=
  let (object, classes) := SlotTable.empty.insert { name := objectName : ManagedClass }
  let (component, classes) := classes.insert { name := componentName, superClass := some object }
  { classes
    structs := .empty
    enums := .empty
    blueprints := .empty
    packages := .empty
    classNames := (Catalog.empty.insert objectName object).insert componentName component
    structNames := .empty
    enumNames := .empty
    objectClass := object
    componentClass := component }

instance : Inhabited TypeGraph := ⟨initial⟩

/-! ## Packages and blueprints -/

def package? (g : TypeGraph) (ref : PackageRef) : Option Package := g.packages.get? ref

def addPackage (g : TypeGraph) (package : Package) : PackageRef × TypeGraph :=
  let (ref, packages) := g.packages.insert package
  (ref, { g with packages })

/-- The first package of this name, in the order of the slots. -/
def findPackage? (g : TypeGraph) (name : String) : Option PackageRef :=
  (g.packages.toList.find? fun pair => pair.2.name = name).map (·.1)

/-- The package of this name; a managed one is added if there is none. -/
def ensurePackage (g : TypeGraph) (name : String) : PackageRef × TypeGraph :=
  match g.findPackage? name with
  | some ref => (ref, g)
  | none => g.addPackage ⟨name, true⟩

/-- The packages made for managed assemblies, in the order of the slots. -/
def managedPackages (g : TypeGraph) : List PackageRef :=
  (g.packages.toList.filter fun pair => pair.2.isManaged).map (·.1)

def blueprint? (g : TypeGraph) (ref : BlueprintRef) : Option Blueprint := g.blueprints.get? ref

def addBlueprint (g : TypeGraph) (blueprint : Blueprint) : BlueprintRef × TypeGraph :=
  let (ref, blueprints) := g.blueprints.insert blueprint
  (ref, { g with blueprints })

/-- Destroys a blueprint; the classes it generated are left without an owner. -/
def removeBlueprint (g : TypeGraph) (ref : BlueprintRef) : Option Blueprint × TypeGraph :=
  let (removed, blueprints) := g.blueprints.remove ref
  (removed, { g with blueprints })

/-- The blueprints that lie in a package, in the order of the slots. -/
def blueprintsIn (g : TypeGraph) (package : PackageRef) : List BlueprintRef :=
  (g.blueprints.toList.filter fun pair => pair.2.package = some package).map (·.1)

/-! ## Classes -/

def class? (g : TypeGraph) (ref : ClassRef) : Option ManagedClass := g.classes.get? ref

def findClass? (g : TypeGraph) (name : TypeName) : Option ClassRef := g.classNames.get? name

def classCount (g : TypeGraph) : Nat := g.classes.size

/-- Adds a class under a free name; its parent, if any, must be live. -/
def addClass (g : TypeGraph) (c : ManagedClass) : Except GraphError (ClassRef × TypeGraph) :=
  if g.classNames.contains c.name then .error (.duplicateType c.name)
  else if c.superClass.any fun parent => !g.classes.contains parent then
    .error (.invalidSuperClass c.name)
  else
    let (ref, classes) := g.classes.insert c
    .ok (ref, { g with classes, classNames := g.classNames.insert c.name ref })

def removeClass (g : TypeGraph) (ref : ClassRef) : Option ManagedClass × TypeGraph :=
  match g.classes.remove ref with
  | (some c, classes) => (some c, { g with classes, classNames := g.classNames.erase c.name })
  | (none, _) => (none, g)

/-- Overwrites the parent and the owner of a live class, unchecked; tells whether it was live. -/
def editClass (g : TypeGraph) (ref : ClassRef) (superClass : Option ClassRef)
    (generatedBy : Option BlueprintRef) : Bool × TypeGraph :=
  (g.classes.contains ref,
    { g with classes := g.classes.modify ref fun c => { c with superClass, generatedBy } })

/-- The parent that a live class names, live or not. -/
def parent? (g : TypeGraph) (ref : ClassRef) : Option ClassRef :=
  (g.class? ref).bind (·.superClass)

/-- The references met by following at most `links` parent links from `ref`, itself first. -/
def lineageWithin (g : TypeGraph) : Nat → ClassRef → List ClassRef
  | 0, ref => [ref]
  | links + 1, ref =>
    match g.parent? ref with
    | some parent => ref :: g.lineageWithin links parent
    | none => [ref]

/-- The references met on the way up from `ref`. Each link leaves a live class, so where no
class is its own ancestor there are no more links than live classes. -/
def lineage (g : TypeGraph) (ref : ClassRef) : List ClassRef :=
  g.lineageWithin g.classes.size ref

/-- Whether `base` is met on the way up from `ref`. Where unchecked edits close a cycle without
`base`, the climb has no end, and this answer stands for none. -/
def derivesFrom (g : TypeGraph) (ref base : ClassRef) : Bool := base ∈ g.lineage ref

/-- Whether a live class derives from the component base. -/
def isComponent (g : TypeGraph) (ref : ClassRef) : Bool :=
  g.classes.contains ref && g.derivesFrom ref g.componentClass

/-- Puts a class under another parent: both live, and the parent no descendant of the class. -/
def setSuper (g : TypeGraph) (ref parent : ClassRef) : Except GraphError TypeGraph :=
  match g.class? ref with
  | none => .error (.staleReference .managedClass)
  | some c =>
    if !g.classes.contains parent then .error (.invalidSuperClass c.name)
    else if g.derivesFrom parent ref then .error (.cyclicInheritance c.name)
    else .ok { g with
      classes := g.classes.modify ref fun c => { c with superClass := some parent } }

/-! ## Links between blueprints and classes -/

/-- Makes `ref` the class of `owner` and `owner` the blueprint of `ref`. Earlier partners of
either keep their own link. -/
def bind (g : TypeGraph) (owner : BlueprintRef) (ref : ClassRef) : Except GraphError TypeGraph :=
  if !g.classes.contains ref then .error (.staleReference .managedClass)
  else if !g.blueprints.contains owner then .error (.staleReference .blueprint)
  else .ok { g with
    blueprints := g.blueprints.modify owner fun b => { b with generatedClass := some ref }
    classes := g.classes.modify ref fun c => { c with generatedBy := some owner } }

/-- The live blueprint that a live class names as its owner. -/
def ownerOf? (g : TypeGraph) (ref : ClassRef) : Option BlueprintRef :=
  ((g.class? ref).bind (·.generatedBy)).filter g.blueprints.contains

/-- The live class that a live blueprint names as its own. -/
def generatedClass? (g : TypeGraph) (owner : BlueprintRef) : Option ClassRef :=
  ((g.blueprint? owner).bind (·.generatedClass)).filter g.classes.contains

/-! ## Structs and enums -/

def struct? (g : TypeGraph) (ref : StructRef) : Option ManagedStruct := g.structs.get? ref

def findStruct? (g : TypeGraph) (name : TypeName) : Option StructRef := g.structNames.get? name

def addStruct (g : TypeGraph) (s : ManagedStruct) : Except GraphError (StructRef × TypeGraph) :=
  if g.structNames.contains s.name then .error (.duplicateType s.name)
  else
    let (ref, structs) := g.structs.insert s
    .ok (ref, { g with structs, structNames := g.structNames.insert s.name ref })

def setStructReferences (g : TypeGraph) (ref : StructRef) (references : ReferenceSet) :
    Except GraphError TypeGraph :=
  if g.structs.contains ref then
    .ok { g with structs := g.structs.modify ref fun s => { s with references } }
  else .error (.staleReference .managedStruct)

def enum? (g : TypeGraph) (ref : EnumRef) : Option ManagedEnum := g.enums.get? ref

def findEnum? (g : TypeGraph) (name : TypeName) : Option EnumRef := g.enumNames.get? name

def addEnum (g : TypeGraph) (e : ManagedEnum) : Except GraphError (EnumRef × TypeGraph) :=
  if g.enumNames.contains e.name then .error (.duplicateType e.name)
  else
    let (ref, enums) := g.enums.insert e
    .ok (ref, { g with enums, enumNames := g.enumNames.insert e.name ref })

/-- Replaces the references recorded for an enum; tells whether it was live. -/
def setEnumReferences (g : TypeGraph) (ref : EnumRef) (references : ReferenceSet) :
    Bool × TypeGraph :=
  (g.enums.contains ref, { g with enums := g.enums.modify ref fun e => { e with references } })

/-- Adds a struct, or gives the struct of that name its new references. -/
def defineStruct (g : TypeGraph) (s : ManagedStruct) : Except GraphError (StructRef × TypeGraph) :=
  match g.findStruct? s.name with
  | some ref => (g.setStructReferences ref s.references).map fun g => (ref, g)
  | none => g.addStruct s

/-- Adds an enum, or gives the enum of that name its new references. -/
def defineEnum (g : TypeGraph) (e : ManagedEnum) : Except GraphError (EnumRef × TypeGraph) :=
  match g.findEnum? e.name with
  | some ref => .ok (ref, (g.setEnumReferences ref e.references).2)
  | none => g.addEnum e

/-! ## Generating classes -/

/-- The parent a definition asks for: the class of that name, if there is one, or the root. -/
def parentFor? (g : TypeGraph) (d : ClassDefinition) : Option ClassRef :=
  match d.superName with
  | some name => g.findClass? name
  | none => some g.objectClass

/-- Puts the class of this name under `parent`, adding it if the name is free. -/
def placeClass (g : TypeGraph) (name : TypeName) (parent : ClassRef) :
    Except GraphError (ClassRef × TypeGraph) :=
  match g.findClass? name with
  | some ref => (g.setSuper ref parent).map fun g => (ref, g)
  | none => g.addClass { name, superClass := some parent }

/-- Makes or updates the class of a definition, then binds it to its blueprint. There is no class
while the parent is not registered. A blueprint that is gone fails the binding, and the class
stays as it was just placed. -/
def generate (g : TypeGraph) (d : ClassDefinition) :
    Except GraphError (Option ClassRef) × TypeGraph :=
  match g.parentFor? d with
  | none => (.ok none, g)
  | some parent =>
    match g.placeClass d.name parent with
    | .error e => (.error e, g)
    | .ok (ref, placed) =>
      match d.blueprint with
      | none => (.ok (some ref), placed)
      | some owner =>
        match placed.bind owner ref with
        | .error e => (.error e, placed)
        | .ok bound => (.ok (some ref), bound)

end TypeGraph

end BlueprintBridge
