import Deobfuscator.Template.Member

/-!
What is said of the slots. A slot is described alike whatever kind fills it.
-/

namespace Deobfuscator.Template

/-- All slots that a kind can fill. -/
def allSlots : List Member := [
  ⟨.slot, "__repr__", some "($self, /)", ["Return repr(self)."]⟩,
  ⟨.slot, "__hash__", some "($self, /)", ["Return hash(self)."]⟩,
  ⟨.slot, "__str__", some "($self, /)", ["Return str(self)."]⟩,
  ⟨.slot, "__getattribute__", some "($self, name, /)", ["Return getattr(self, name)."]⟩,
  ⟨.slot, "__lt__", some "($self, value, /)", ["Return self<value."]⟩,
  ⟨.slot, "__le__", some "($self, value, /)", ["Return self<=value."]⟩,
  ⟨.slot, "__eq__", some "($self, value, /)", ["Return self==value."]⟩,
  ⟨.slot, "__ne__", some "($self, value, /)", ["Return self!=value."]⟩,
  ⟨.slot, "__gt__", some "($self, value, /)", ["Return self>value."]⟩,
  ⟨.slot, "__ge__", some "($self, value, /)", ["Return self>=value."]⟩,
  ⟨.slot, "__iter__", some "($self, /)", ["Implement iter(self)."]⟩,
  ⟨.slot, "__mod__", some "($self, value, /)", ["Return self%value."]⟩,
  ⟨.slot, "__rmod__", some "($self, value, /)", ["Return value%self."]⟩,
  ⟨.slot, "__len__", some "($self, /)", ["Return len(self)."]⟩,
  ⟨.slot, "__getitem__", some "($self, key, /)", ["Return self[key]."]⟩,
  ⟨.slot, "__add__", some "($self, value, /)", ["Return self+value."]⟩,
  ⟨.slot, "__mul__", some "($self, value, /)", ["Return self*value."]⟩,
  ⟨.slot, "__rmul__", some "($self, value, /)", ["Return value*self."]⟩,
  ⟨.slot, "__contains__", some "($self, key, /)", ["Return key in self."]⟩,
  ⟨.slot, "__bool__", some "($self, /)", ["True if self else False"]⟩,
  ⟨.slot, "__call__", some "($self, /, *args, **kwargs)", ["Call self as a function."]⟩,
  ⟨.slot, "__setattr__", some "($self, name, value, /)", ["Implement setattr(self, name, value)."]⟩,
  ⟨.slot, "__delattr__", some "($self, name, /)", ["Implement delattr(self, name)."]⟩,
  ⟨.slot, "__init__", some "($self, /, *args, **kwargs)", [
    "Initialize self.  See help(type(self)) for accurate signature."]⟩,
  ⟨.slot, "__or__", some "($self, value, /)", ["Return self|value."]⟩,
  ⟨.slot, "__ror__", some "($self, value, /)", ["Return value|self."]⟩,
  ⟨.slot, "__radd__", some "($self, value, /)", ["Return value+self."]⟩,
  ⟨.slot, "__sub__", some "($self, value, /)", ["Return self-value."]⟩,
  ⟨.slot, "__rsub__", some "($self, value, /)", ["Return value-self."]⟩,
  ⟨.slot, "__divmod__", some "($self, value, /)", ["Return divmod(self, value)."]⟩,
  ⟨.slot, "__rdivmod__", some "($self, value, /)", ["Return divmod(value, self)."]⟩,
  ⟨.slot, "__pow__", some "($self, value, mod=None, /)", ["Return pow(self, value, mod)."]⟩,
  ⟨.slot, "__rpow__", some "($self, value, mod=None, /)", ["Return pow(value, self, mod)."]⟩,
  ⟨.slot, "__neg__", some "($self, /)", ["-self"]⟩,
  ⟨.slot, "__pos__", some "($self, /)", ["+self"]⟩,
  ⟨.slot, "__abs__", some "($self, /)", ["abs(self)"]⟩,
  ⟨.slot, "__invert__", some "($self, /)", ["~self"]⟩,
  ⟨.slot, "__lshift__", some "($self, value, /)", ["Return self<<value."]⟩,
  ⟨.slot, "__rlshift__", some "($self, value, /)", ["Return value<<self."]⟩,
  ⟨.slot, "__rshift__", some "($self, value, /)", ["Return self>>value."]⟩,
  ⟨.slot, "__rrshift__", some "($self, value, /)", ["Return value>>self."]⟩,
  ⟨.slot, "__and__", some "($self, value, /)", ["Return self&value."]⟩,
  ⟨.slot, "__rand__", some "($self, value, /)", ["Return value&self."]⟩,
  ⟨.slot, "__xor__", some "($self, value, /)", ["Return self^value."]⟩,
  ⟨.slot, "__rxor__", some "($self, value, /)", ["Return value^self."]⟩,
  ⟨.slot, "__int__", some "($self, /)", ["int(self)"]⟩,
  ⟨.slot, "__float__", some "($self, /)", ["float(self)"]⟩,
  ⟨.slot, "__floordiv__", some "($self, value, /)", ["Return self//value."]⟩,
  ⟨.slot, "__rfloordiv__", some "($self, value, /)", ["Return value//self."]⟩,
  ⟨.slot, "__truediv__", some "($self, value, /)", ["Return self/value."]⟩,
  ⟨.slot, "__rtruediv__", some "($self, value, /)", ["Return value/self."]⟩,
  ⟨.slot, "__index__", some "($self, /)", [
    "Return self converted to an integer, if self is suitable for use as an index into a list."]⟩,
  ⟨.slot, "__ior__", some "($self, value, /)", ["Return self|=value."]⟩,
  ⟨.slot, "__setitem__", some "($self, key, value, /)", ["Set self[key] to value."]⟩,
  ⟨.slot, "__delitem__", some "($self, key, /)", ["Delete self[key]."]⟩,
  ⟨.slot, "__get__", some "($self, instance, owner=None, /)", [
    "Return an attribute of instance, which is of type owner."]⟩,
  ⟨.slot, "__set__", some "($self, instance, value, /)", ["Set an attribute of instance to value."]⟩,
  ⟨.slot, "__delete__", some "($self, instance, /)", ["Delete an attribute of instance."]⟩]

def slots (names : List String) : List Member :=
  names.filterMap fun name => allSlots.find? (·.name == name)

end Deobfuscator.Template
