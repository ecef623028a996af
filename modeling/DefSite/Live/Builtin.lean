import DefSite.Live.Object

/-!
# Built-in classes

Some classes are there without being defined: those with built-in names, and the classes of
functions, modules and the like.  Of each the table below tells its ancestors and every attribute
that it holds itself.  What a built-in method does is not told, and neither is the text that
documents a built-in class: both are known by their places, and have no code that can be located.
-/

namespace DefSite.Live

/-- A class that is built in. -/
structure BuiltinClass where
  name : String
  /-- Its ancestors, in the order of lookup. -/
  above : List String
  /-- Methods and the text that documents the class. -/
  slots : List String
  /-- Descriptors that are asked before an object's own attributes. -/
  data : List String := []
  statics : List String := []
  /-- Texts and, as `none`, the object that stands for nothing. -/
  values : List (String × Option String) := []
  /-- Whether its instances are laid out in a way of their own. -/
  solid : Bool := true
  deriving Repr, Inhabited

namespace BuiltinClass

/-- The ancestors that most classes of errors have. -/
def belowErrors : List String :=
  ["Exception", "BaseException", "object"]

/-- A class of errors that are made and set up in a way of their own. -/
def fresh (above : List String) (name : String) : BuiltinClass :=
  { name, above, slots := ["__new__", "__init__", "__doc__"], solid := false }

/-- A class of errors that are set up in a way of their own. -/
def derived (above : List String) (name : String) : BuiltinClass :=
  { name, above, slots := ["__init__", "__doc__"], solid := false }

/-- The class of all objects and the class of classes. -/
def roots : List BuiltinClass :=
  [{ name := "object", above := [],
     slots := ["__new__", "__repr__", "__hash__", "__str__", "__getattribute__", "__setattr__",
       "__delattr__", "__lt__", "__le__", "__eq__", "__ne__", "__gt__", "__ge__", "__init__",
       "__reduce_ex__", "__reduce__", "__getstate__", "__subclasshook__", "__init_subclass__",
       "__format__", "__sizeof__", "__dir__", "__doc__"],
     data := ["__class__"] },
   { name := "type", above := ["object"],
     slots := ["__new__", "__repr__", "__call__", "__getattribute__", "__setattr__",
       "__delattr__", "__init__", "__or__", "__ror__", "mro", "__subclasses__", "__prepare__",
       "__instancecheck__", "__subclasscheck__", "__dir__", "__sizeof__"],
     data := ["__basicsize__", "__itemsize__", "__flags__", "__weakrefoffset__", "__base__",
       "__dictoffset__", "__mro__", "__name__", "__qualname__", "__bases__", "__module__",
       "__abstractmethods__", "__dict__", "__doc__", "__text_signature__", "__annotations__"] }]

def numbers : List BuiltinClass :=
  [{ name := "int", above := ["object"],
     slots := ["__new__", "__repr__", "__hash__", "__getattribute__", "__lt__", "__le__",
       "__eq__", "__ne__", "__gt__", "__ge__", "__add__", "__radd__", "__sub__", "__rsub__",
       "__mul__", "__rmul__", "__mod__", "__rmod__", "__divmod__", "__rdivmod__", "__pow__",
       "__rpow__", "__neg__", "__pos__", "__abs__", "__bool__", "__invert__", "__lshift__",
       "__rlshift__", "__rshift__", "__rrshift__", "__and__", "__rand__", "__xor__", "__rxor__",
       "__or__", "__ror__", "__int__", "__float__", "__floordiv__", "__rfloordiv__",
       "__truediv__", "__rtruediv__", "__index__", "conjugate", "bit_length", "bit_count",
       "to_bytes", "from_bytes", "as_integer_ratio", "__trunc__", "__floor__", "__ceil__",
       "__round__", "__getnewargs__", "__format__", "__sizeof__", "__doc__"],
     data := ["real", "imag", "numerator", "denominator"] },
   { name := "bool", above := ["int", "object"],
     slots := ["__new__", "__repr__", "__and__", "__rand__", "__xor__", "__rxor__", "__or__",
       "__ror__", "__doc__"] },
   { name := "float", above := ["object"],
     slots := ["__new__", "__repr__", "__hash__", "__getattribute__", "__lt__", "__le__",
       "__eq__", "__ne__", "__gt__", "__ge__", "__add__", "__radd__", "__sub__", "__rsub__",
       "__mul__", "__rmul__", "__mod__", "__rmod__", "__divmod__", "__rdivmod__", "__pow__",
       "__rpow__", "__neg__", "__pos__", "__abs__", "__bool__", "__int__", "__float__",
       "__floordiv__", "__rfloordiv__", "__truediv__", "__rtruediv__", "conjugate", "__trunc__",
       "__floor__", "__ceil__", "__round__", "as_integer_ratio", "fromhex", "hex", "is_integer",
       "__getnewargs__", "__getformat__", "__format__", "__doc__"],
     data := ["real", "imag"] },
   { name := "complex", above := ["object"],
     slots := ["__new__", "__repr__", "__hash__", "__getattribute__", "__lt__", "__le__",
       "__eq__", "__ne__", "__gt__", "__ge__", "__add__", "__radd__", "__sub__", "__rsub__",
       "__mul__", "__rmul__", "__pow__", "__rpow__", "__neg__", "__pos__", "__abs__", "__bool__",
       "__truediv__", "__rtruediv__", "conjugate", "__complex__", "__getnewargs__", "__format__",
       "__doc__"],
     data := ["real", "imag"] }]

/-- Texts and bytes. -/
def texts : List BuiltinClass :=
  [{ name := "str", above := ["object"],
     slots := ["__new__", "__repr__", "__hash__", "__str__", "__getattribute__", "__lt__",
       "__le__", "__eq__", "__ne__", "__gt__", "__ge__", "__iter__", "__mod__", "__rmod__",
       "__len__", "__getitem__", "__add__", "__mul__", "__rmul__", "__contains__", "encode",
       "replace", "split", "rsplit", "join", "capitalize", "casefold", "title", "center",
       "count", "expandtabs", "find", "partition", "index", "ljust", "lower", "lstrip", "rfind",
       "rindex", "rjust", "rstrip", "rpartition", "splitlines", "strip", "swapcase", "translate",
       "upper", "startswith", "endswith", "removeprefix", "removesuffix", "isascii", "islower",
       "isupper", "istitle", "isspace", "isdecimal", "isdigit", "isnumeric", "isalpha",
       "isalnum", "isidentifier", "isprintable", "zfill", "format", "format_map", "__format__",
       "__sizeof__", "__getnewargs__", "__doc__"],
     statics := ["maketrans"] },
   { name := "bytes", above := ["object"],
     slots := ["__new__", "__repr__", "__hash__", "__str__", "__getattribute__", "__lt__",
       "__le__", "__eq__", "__ne__", "__gt__", "__ge__", "__iter__", "__mod__", "__rmod__",
       "__len__", "__getitem__", "__add__", "__mul__", "__rmul__", "__contains__",
       "__getnewargs__", "__bytes__", "capitalize", "center", "count", "decode", "endswith",
       "expandtabs", "find", "fromhex", "hex", "index", "isalnum", "isalpha", "isascii",
       "isdigit", "islower", "isspace", "istitle", "isupper", "join", "ljust", "lower", "lstrip",
       "partition", "replace", "removeprefix", "removesuffix", "rfind", "rindex", "rjust",
       "rpartition", "rsplit", "rstrip", "split", "splitlines", "startswith", "strip",
       "swapcase", "title", "translate", "upper", "zfill", "__doc__"],
     statics := ["maketrans"] },
   { name := "bytearray", above := ["object"],
     slots := ["__new__", "__repr__", "__str__", "__getattribute__", "__lt__", "__le__",
       "__eq__", "__ne__", "__gt__", "__ge__", "__iter__", "__init__", "__mod__", "__rmod__",
       "__len__", "__getitem__", "__setitem__", "__delitem__", "__add__", "__mul__", "__rmul__",
       "__contains__", "__iadd__", "__imul__", "__alloc__", "__reduce__", "__reduce_ex__",
       "__sizeof__", "append", "capitalize", "center", "clear", "copy", "count", "decode",
       "endswith", "expandtabs", "extend", "find", "fromhex", "hex", "index", "insert",
       "isalnum", "isalpha", "isascii", "isdigit", "islower", "isspace", "istitle", "isupper",
       "join", "ljust", "lower", "lstrip", "partition", "pop", "remove", "replace",
       "removeprefix", "removesuffix", "reverse", "rfind", "rindex", "rjust", "rpartition",
       "rsplit", "rstrip", "split", "splitlines", "startswith", "strip", "swapcase", "title",
       "translate", "upper", "zfill", "__doc__"],
     statics := ["maketrans"],
     values := [("__hash__", none)] },
   { name := "memoryview", above := ["object"],
     slots := ["__new__", "__repr__", "__hash__", "__getattribute__", "__lt__", "__le__",
       "__eq__", "__ne__", "__gt__", "__ge__", "__iter__", "__len__", "__getitem__",
       "__setitem__", "__delitem__", "release", "tobytes", "hex", "tolist", "cast", "toreadonly",
       "__enter__", "__exit__", "__doc__"],
     data := ["obj", "nbytes", "readonly", "itemsize", "format", "ndim", "shape", "strides",
       "suboffsets", "c_contiguous", "f_contiguous", "contiguous"] }]

def collections : List BuiltinClass :=
  [{ name := "list", above := ["object"],
     slots := ["__new__", "__repr__", "__getattribute__", "__lt__", "__le__", "__eq__", "__ne__",
       "__gt__", "__ge__", "__iter__", "__init__", "__len__", "__getitem__", "__setitem__",
       "__delitem__", "__add__", "__mul__", "__rmul__", "__contains__", "__iadd__", "__imul__",
       "__reversed__", "__sizeof__", "clear", "copy", "append", "insert", "extend", "pop",
       "remove", "index", "count", "reverse", "sort", "__class_getitem__", "__doc__"],
     values := [("__hash__", none)] },
   { name := "tuple", above := ["object"],
     slots := ["__new__", "__repr__", "__hash__", "__getattribute__", "__lt__", "__le__",
       "__eq__", "__ne__", "__gt__", "__ge__", "__iter__", "__len__", "__getitem__", "__add__",
       "__mul__", "__rmul__", "__contains__", "__getnewargs__", "index", "count",
       "__class_getitem__", "__doc__"] },
   { name := "dict", above := ["object"],
     slots := ["__new__", "__repr__", "__getattribute__", "__lt__", "__le__", "__eq__", "__ne__",
       "__gt__", "__ge__", "__iter__", "__init__", "__or__", "__ror__", "__ior__", "__len__",
       "__getitem__", "__setitem__", "__delitem__", "__contains__", "__sizeof__", "get",
       "setdefault", "pop", "popitem", "keys", "items", "values", "update", "fromkeys", "clear",
       "copy", "__reversed__", "__class_getitem__", "__doc__"],
     values := [("__hash__", none)] },
   { name := "set", above := ["object"],
     slots := ["__new__", "__repr__", "__getattribute__", "__lt__", "__le__", "__eq__", "__ne__",
       "__gt__", "__ge__", "__iter__", "__init__", "__sub__", "__rsub__", "__and__", "__rand__",
       "__xor__", "__rxor__", "__or__", "__ror__", "__isub__", "__iand__", "__ixor__", "__ior__",
       "__len__", "__contains__", "add", "clear", "copy", "discard", "difference",
       "difference_update", "intersection", "intersection_update", "isdisjoint", "issubset",
       "issuperset", "pop", "__reduce__", "remove", "__sizeof__", "symmetric_difference",
       "symmetric_difference_update", "union", "update", "__class_getitem__", "__doc__"],
     values := [("__hash__", none)] },
   { name := "frozenset", above := ["object"],
     slots := ["__new__", "__repr__", "__hash__", "__getattribute__", "__lt__", "__le__",
       "__eq__", "__ne__", "__gt__", "__ge__", "__iter__", "__sub__", "__rsub__", "__and__",
       "__rand__", "__xor__", "__rxor__", "__or__", "__ror__", "__len__", "__contains__", "copy",
       "difference", "intersection", "isdisjoint", "issubset", "issuperset", "__reduce__",
       "__sizeof__", "symmetric_difference", "union", "__class_getitem__", "__doc__"] },
   { name := "range", above := ["object"],
     slots := ["__new__", "__repr__", "__hash__", "__getattribute__", "__lt__", "__le__",
       "__eq__", "__ne__", "__gt__", "__ge__", "__iter__", "__bool__", "__len__", "__getitem__",
       "__contains__", "__reversed__", "__reduce__", "count", "index", "__doc__"],
     data := ["start", "stop", "step"] },
   { name := "slice", above := ["object"],
     slots := ["__new__", "__repr__", "__getattribute__", "__lt__", "__le__", "__eq__", "__ne__",
       "__gt__", "__ge__", "indices", "__reduce__", "__doc__"],
     data := ["start", "stop", "step"],
     values := [("__hash__", none)] }]

def iterators : List BuiltinClass :=
  [{ name := "enumerate", above := ["object"],
     slots := ["__new__", "__getattribute__", "__iter__", "__next__", "__reduce__",
       "__class_getitem__", "__doc__"] },
   { name := "filter", above := ["object"],
     slots := ["__new__", "__getattribute__", "__iter__", "__next__", "__reduce__", "__doc__"] },
   { name := "map", above := ["object"],
     slots := ["__new__", "__getattribute__", "__iter__", "__next__", "__reduce__", "__doc__"] },
   { name := "reversed", above := ["object"],
     slots := ["__new__", "__getattribute__", "__iter__", "__next__", "__length_hint__",
       "__reduce__", "__setstate__", "__doc__"] },
   { name := "zip", above := ["object"],
     slots := ["__new__", "__getattribute__", "__iter__", "__next__", "__reduce__",
       "__setstate__", "__doc__"] }]

def descriptors : List BuiltinClass :=
  [{ name := "classmethod", above := ["object"],
     slots := ["__new__", "__repr__", "__get__", "__init__", "__doc__"],
     data := ["__func__", "__wrapped__", "__isabstractmethod__", "__dict__"] },
   { name := "staticmethod", above := ["object"],
     slots := ["__new__", "__repr__", "__call__", "__get__", "__init__", "__doc__"],
     data := ["__func__", "__wrapped__", "__isabstractmethod__", "__dict__"] },
   { name := "property", above := ["object"],
     slots := ["__new__", "__getattribute__", "__get__", "__set__", "__delete__", "__init__",
       "getter", "setter", "deleter", "__set_name__"],
     data := ["fget", "fset", "fdel", "__doc__", "__isabstractmethod__"] },
   { name := "super", above := ["object"],
     slots := ["__new__", "__repr__", "__getattribute__", "__get__", "__init__", "__doc__"],
     data := ["__thisclass__", "__self__", "__self_class__"] }]

/-- Classes of errors that hold more than how they are made. -/
def errorsWithParts : List BuiltinClass :=
  [{ name := "BaseException", above := ["object"],
     slots := ["__new__", "__repr__", "__str__", "__getattribute__", "__setattr__",
       "__delattr__", "__init__", "__reduce__", "__setstate__", "with_traceback", "add_note",
       "__doc__"],
     data := ["__suppress_context__", "__dict__", "args", "__traceback__", "__context__",
       "__cause__"] },
   { name := "BaseExceptionGroup", above := ["BaseException", "object"],
     slots := ["__new__", "__str__", "__init__", "__class_getitem__", "derive", "split",
       "subgroup", "__doc__"],
     data := ["message", "exceptions"] },
   { name := "SystemExit", above := ["BaseException", "object"],
     slots := ["__init__", "__doc__"],
     data := ["code"] },
   { name := "AttributeError", above := ["Exception", "BaseException", "object"],
     slots := ["__str__", "__init__", "__doc__"],
     data := ["name", "obj"] },
   { name := "ImportError", above := ["Exception", "BaseException", "object"],
     slots := ["__str__", "__init__", "__reduce__", "__doc__"],
     data := ["msg", "name", "path"] },
   { name := "NameError", above := ["Exception", "BaseException", "object"],
     slots := ["__str__", "__init__", "__doc__"],
     data := ["name"] },
   { name := "OSError", above := ["Exception", "BaseException", "object"],
     slots := ["__new__", "__str__", "__init__", "__reduce__", "__doc__"],
     data := ["errno", "strerror", "filename", "filename2", "characters_written"] },
   { name := "StopIteration", above := ["Exception", "BaseException", "object"],
     slots := ["__init__", "__doc__"],
     data := ["value"] },
   { name := "SyntaxError", above := ["Exception", "BaseException", "object"],
     slots := ["__str__", "__init__", "__doc__"],
     data := ["msg", "filename", "lineno", "offset", "text", "end_lineno", "end_offset",
       "print_file_and_line"] },
   { name := "KeyError", above := ["LookupError", "Exception", "BaseException", "object"],
     slots := ["__str__", "__init__", "__doc__"],
     solid := false },
   { name := "UnicodeDecodeError",
     above := ["UnicodeError", "ValueError", "Exception", "BaseException", "object"],
     slots := ["__new__", "__str__", "__init__", "__doc__"],
     data := ["encoding", "object", "start", "end", "reason"] },
   { name := "UnicodeEncodeError",
     above := ["UnicodeError", "ValueError", "Exception", "BaseException", "object"],
     slots := ["__new__", "__str__", "__init__", "__doc__"],
     data := ["encoding", "object", "start", "end", "reason"] },
   { name := "UnicodeTranslateError",
     above := ["UnicodeError", "ValueError", "Exception", "BaseException", "object"],
     slots := ["__new__", "__str__", "__init__", "__doc__"],
     data := ["encoding", "object", "start", "end", "reason"] },
   { name := "ExceptionGroup",
     above := ["BaseExceptionGroup", "Exception", "BaseException", "object"],
     slots := ["__doc__"],
     data := ["__weakref__"],
     values := [("__module__", some "builtins")],
     solid := false }]

/-- Classes of errors that only differ in how they are made and set up. -/
def freshErrors : List BuiltinClass :=
  ["Exception", "GeneratorExit", "KeyboardInterrupt"].map (fresh ["BaseException", "object"]) ++
  ["ArithmeticError", "AssertionError", "BufferError", "EOFError", "LookupError", "MemoryError",
    "ReferenceError", "RuntimeError", "StopAsyncIteration", "SystemError", "TypeError",
    "ValueError", "Warning"].map (fresh belowErrors) ++
  ["FloatingPointError", "OverflowError", "ZeroDivisionError"].map
    (fresh ("ArithmeticError" :: belowErrors)) ++
  ["BytesWarning", "DeprecationWarning", "EncodingWarning", "FutureWarning", "ImportWarning",
    "PendingDeprecationWarning", "ResourceWarning", "RuntimeWarning", "SyntaxWarning",
    "UnicodeWarning", "UserWarning"].map (fresh ("Warning" :: belowErrors)) ++
  ["IndexError"].map (fresh ("LookupError" :: belowErrors)) ++
  ["NotImplementedError", "RecursionError"].map (fresh ("RuntimeError" :: belowErrors)) ++
  ["UnicodeError"].map (fresh ("ValueError" :: belowErrors))

/-- Classes of errors that only differ in how they are set up. -/
def derivedErrors : List BuiltinClass :=
  ["BlockingIOError", "ChildProcessError", "ConnectionError", "FileExistsError",
    "FileNotFoundError", "InterruptedError", "IsADirectoryError", "NotADirectoryError",
    "PermissionError", "ProcessLookupError", "TimeoutError"].map
    (derived ("OSError" :: belowErrors)) ++
  ["IndentationError"].map (derived ("SyntaxError" :: belowErrors)) ++
  ["ModuleNotFoundError"].map (derived ("ImportError" :: belowErrors)) ++
  ["UnboundLocalError"].map (derived ("NameError" :: belowErrors)) ++
  ["BrokenPipeError", "ConnectionAbortedError", "ConnectionRefusedError",
    "ConnectionResetError"].map (derived ("ConnectionError" :: "OSError" :: belowErrors)) ++
  ["TabError"].map (derived ("IndentationError" :: "SyntaxError" :: belowErrors))

/-- Classes of objects that no built-in name stands for. -/
def unnamed : List BuiltinClass :=
  [{ name := "function", above := ["object"],
     slots := ["__new__", "__repr__", "__call__", "__get__"],
     data := ["__closure__", "__doc__", "__globals__", "__module__", "__builtins__", "__code__",
       "__defaults__", "__kwdefaults__", "__annotations__", "__dict__", "__name__",
       "__qualname__"] },
   { name := "method", above := ["object"],
     slots := ["__new__", "__repr__", "__hash__", "__call__", "__getattribute__", "__setattr__",
       "__delattr__", "__lt__", "__le__", "__eq__", "__ne__", "__gt__", "__ge__", "__reduce__"],
     data := ["__func__", "__self__", "__doc__"] },
   { name := "builtin_function_or_method", above := ["object"],
     slots := ["__repr__", "__hash__", "__call__", "__getattribute__", "__lt__", "__le__",
       "__eq__", "__ne__", "__gt__", "__ge__", "__reduce__"],
     data := ["__module__", "__doc__", "__name__", "__qualname__", "__self__",
       "__text_signature__"] },
   { name := "module", above := ["object"],
     slots := ["__new__", "__repr__", "__getattribute__", "__setattr__", "__delattr__",
       "__init__", "__dir__", "__doc__"],
     data := ["__dict__", "__annotations__"] },
   { name := "code", above := ["object"],
     slots := ["__new__", "__repr__", "__hash__", "__getattribute__", "__lt__", "__le__",
       "__eq__", "__ne__", "__gt__", "__ge__", "__sizeof__", "co_lines", "co_positions",
       "replace", "_varname_from_oparg", "__doc__"],
     data := ["co_argcount", "co_posonlyargcount", "co_kwonlyargcount", "co_stacksize",
       "co_flags", "co_nlocals", "co_consts", "co_names", "co_filename", "co_name",
       "co_qualname", "co_firstlineno", "co_linetable", "co_exceptiontable", "co_lnotab",
       "_co_code_adaptive", "co_varnames", "co_cellvars", "co_freevars", "co_code"] },
   { name := "NoneType", above := ["object"],
     slots := ["__new__", "__repr__", "__bool__", "__doc__"] },
   { name := "cached_property", above := ["object"],
     slots := ["__init__", "__set_name__", "__get__", "__class_getitem__", "__doc__"],
     data := ["__dict__", "__weakref__"],
     values := [("__module__", some "functools")] },
   { name := "partial", above := ["object"],
     slots := ["__new__", "__repr__", "__call__", "__getattribute__", "__setattr__",
       "__delattr__", "__reduce__", "__setstate__", "__class_getitem__", "__doc__"],
     data := ["func", "args", "keywords", "__vectorcalloffset__", "__dict__"],
     values := [("__module__", some "functools")] }]

end BuiltinClass

/-- The classes with built-in names. -/
def namedClasses : List BuiltinClass :=
  open BuiltinClass in
  roots ++ numbers ++ texts ++ collections ++ iterators ++ descriptors ++ errorsWithParts ++
    freshErrors ++ derivedErrors

/-- Whether a built-in name is that of a class; the other ones are those of functions. -/
def isBuiltinClass (name : String) : Bool :=
  namedClasses.any fun c => c.name = name

def builtinClass? (name : String) : Option BuiltinClass :=
  (namedClasses ++ BuiltinClass.unnamed).find? fun c => c.name = name

/-- The ancestors of a built-in class in the order of lookup, the class itself being the first. -/
def builtinAncestry (name : String) : List String :=
  name :: ((builtinClass? name).map (·.above)).getD []

end DefSite.Live
