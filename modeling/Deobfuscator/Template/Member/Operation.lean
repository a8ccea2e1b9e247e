import Deobfuscator.Template.Member.Slot

/-!
What the members of kinds offer themselves, unbound and bound to a value.
-/

namespace Deobfuscator.Template

def methodMembers : List Member :=
  slots ["__repr__", "__call__", "__getattribute__", "__get__"] ++ [
  ⟨.method, "__reduce__", none, []⟩]
  ++ fields ["__objclass__", "__name__"]
  ++ properties ["__doc__", "__qualname__", "__text_signature__"]

def slotMembers : List Member :=
  slots ["__repr__", "__call__", "__getattribute__", "__get__"] ++ [
  ⟨.method, "__reduce__", none, []⟩]
  ++ fields ["__objclass__", "__name__"]
  ++ properties ["__doc__", "__qualname__", "__text_signature__"]

/-- The members of the kind of methods that work on a kind. -/
def kindMethodMembers : List Member :=
  slots ["__repr__", "__call__", "__getattribute__", "__get__"]
  ++ fields ["__objclass__", "__name__"]
  ++ properties ["__doc__", "__qualname__", "__text_signature__"]

def propertyMembers : List Member :=
  slots ["__repr__", "__getattribute__", "__get__", "__set__", "__delete__"]
  ++ fields ["__objclass__", "__name__"]
  ++ properties ["__doc__", "__qualname__"]

def fieldMembers : List Member :=
  slots ["__repr__", "__getattribute__", "__get__", "__set__", "__delete__"] ++ [
  ⟨.method, "__reduce__", none, []⟩]
  ++ fields ["__objclass__", "__name__"]
  ++ properties ["__doc__", "__qualname__"]

def boundMethodMembers : List Member :=
  slots [
    "__repr__", "__hash__", "__call__", "__getattribute__", "__lt__", "__le__", "__eq__", "__ne__", "__gt__",
    "__ge__"] ++ [
  ⟨.method, "__reduce__", none, []⟩]
  ++ fields ["__module__"]
  ++ properties ["__doc__", "__name__", "__qualname__", "__self__", "__text_signature__"]

def boundSlotMembers : List Member :=
  slots [
    "__repr__", "__hash__", "__call__", "__getattribute__", "__lt__", "__le__", "__eq__", "__ne__", "__gt__",
    "__ge__"] ++ [
  ⟨.method, "__reduce__", none, []⟩]
  ++ fields ["__self__"]
  ++ properties ["__objclass__", "__name__", "__qualname__", "__doc__", "__text_signature__"]

/-- The members of the kind of free functions that a kind holds. -/
def wrapperMembers : List Member :=
  maker :: slots ["__repr__", "__call__", "__get__", "__init__"]
  ++ fields ["__func__", "__wrapped__"]
  ++ properties ["__isabstractmethod__", "__dict__"] ++ [
  ⟨.note, "__doc__", none, [
    "staticmethod(function) -> method",
    "",
    "Convert a function to be a static method.",
    "",
    "A static method does not receive an implicit first argument.",
    "To declare a static method, use this idiom:",
    "",
    "     class C:",
    "         @staticmethod",
    "         def f(arg1, arg2, argN):",
    "             ...",
    "",
    "It can be called either on the class (e.g. C.f()) or on an instance",
    "(e.g. C().f()). Both the class and the instance are ignored, and",
    "neither is passed implicitly as the first argument to the method.",
    "",
    "Static methods in Python are similar to those found in Java or C++.",
    "For a more advanced concept, see the classmethod builtin."]⟩]

end Deobfuscator.Template
