import BytecodeAssembler.Literal.Value

/-!
# Fields

The eleven fields that a code object is made from.  A directive may set any of them to any value;
the code object checks nothing, so a field holds an arbitrary value.
-/

namespace BytecodeAssembler

/-- The fields by name. -/
inductive Field where
  | argumentCount
  | stackSize
  | flags
  | constants
  | globalNames
  | localNames
  | name
  | firstLine
  | lineTable
  | freeNames
  | cellNames
deriving DecidableEq

/-- The field that a directive calls by this word. -/
def Field.ofWord? (word : String) : Option Field :=
  match word with
  | "argcount" => some .argumentCount
  | "stacksize" => some .stackSize
  | "flags" => some .flags
  | "consts" => some .constants
  | "names" => some .globalNames
  | "varnames" => some .localNames
  | "name" => some .name
  | "firstlineno" => some .firstLine
  | "lnotab" => some .lineTable
  | "freevars" => some .freeNames
  | "cellvars" => some .cellNames
  | _ => none

/-- The values of all fields. -/
structure Fields where
  argumentCount : Value
  stackSize : Value
  flags : Value
  constants : Value
  globalNames : Value
  localNames : Value
  name : Value
  firstLine : Value
  lineTable : Value
  freeNames : Value
  cellNames : Value

namespace Fields

/-- The fields of a listing before any directive. -/
def initial : Fields where
  argumentCount := .int 0
  stackSize := .int 0
  flags := .int 0
  constants := .list [.none]
  globalNames := .list []
  localNames := .list []
  name := .str []
  firstLine := .int 1
  lineTable := .list []
  freeNames := .tuple []
  cellNames := .tuple []

def get (fields : Fields) : Field → Value
  | .argumentCount => fields.argumentCount
  | .stackSize => fields.stackSize
  | .flags => fields.flags
  | .constants => fields.constants
  | .globalNames => fields.globalNames
  | .localNames => fields.localNames
  | .name => fields.name
  | .firstLine => fields.firstLine
  | .lineTable => fields.lineTable
  | .freeNames => fields.freeNames
  | .cellNames => fields.cellNames

def set (fields : Fields) (field : Field) (value : Value) : Fields :=
  match field with
  | .argumentCount => { fields with argumentCount := value }
  | .stackSize => { fields with stackSize := value }
  | .flags => { fields with flags := value }
  | .constants => { fields with constants := value }
  | .globalNames => { fields with globalNames := value }
  | .localNames => { fields with localNames := value }
  | .name => { fields with name := value }
  | .firstLine => { fields with firstLine := value }
  | .lineTable => { fields with lineTable := value }
  | .freeNames => { fields with freeNames := value }
  | .cellNames => { fields with cellNames := value }

/-- Setting a field changes that field only. -/
theorem get_set (fields : Fields) (field field' : Field) (value : Value) :
    (fields.set field value).get field' = if field' = field then value else fields.get field' := by
  cases field <;> cases field' <;> rfl

end Fields

end BytecodeAssembler
