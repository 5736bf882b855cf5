import TableCodegen.Generator

/-!
# Stock templates

The template that each generator comes with. It declares a Java enumeration with one constant for
each record, and an empty one for a table without records. In the lines below `⟨` and `⟩` stand for
the braces.
-/

namespace TableCodegen
namespace StockTemplate

/-- The lines of the template for reference points. -/
def referencePointLines : List String := [
  "package io.pkts.tgpp;",
  "",
  "/**",
  " * Reference points between the network elements of the 3GPP/ITU",
  " * architecture.",
  " *",
  " * This file is generated by pkts-codegen from the reference point table,",
  " * do not edit it by hand.",
  " */",
  "public enum ReferencePoint ⟨",
  "⟨% for i in interfaces %⟩    ⟨⟨ i.name ⟩⟩(⟨⟨ i.protocol ⟩⟩, ⟨⟨ i.elements ⟩⟩, ⟨⟨ i.description ⟩⟩, ⟨⟨ i.references ⟩⟩)⟨% if forloop.last %⟩;⟨% else %⟩,⟨% endif %⟩",
  "⟨% endfor %⟩⟨% if interfaces.size == 0 %⟩    ;",
  "⟨% endif %⟩",
  "    private final String[] protocol;",
  "    private final String[] elements;",
  "    private final String description;",
  "    private final String[] references;",
  "",
  "    ReferencePoint(final String[] protocol, final String[] elements, final String description,",
  "            final String[] references) ⟨",
  "        this.protocol = protocol;",
  "        this.elements = elements;",
  "        this.description = description;",
  "        this.references = references;",
  "    ⟩",
  "",
  "    public String[] getProtocol() ⟨",
  "        return protocol.clone();",
  "    ⟩",
  "",
  "    public String[] getElements() ⟨",
  "        return elements.clone();",
  "    ⟩",
  "",
  "    public String getDescription() ⟨",
  "        return description;",
  "    ⟩",
  "",
  "    public String[] getReferences() ⟨",
  "        return references.clone();",
  "    ⟩",
  "⟩"]

/-- The lines of the template for information elements. -/
def informationElementLines : List String := [
  "package io.pkts.tgpp;",
  "",
  "/**",
  " * GTPv2 information elements as listed in 3GPP TS 29.274.",
  " *",
  " * This file is generated by pkts-codegen from the GTPv2 information element",
  " * table, do not edit it by hand.",
  " */",
  "public enum Gtp2InformationElements ⟨",
  "⟨% for e in elements %⟩    ⟨⟨ e.message ⟩⟩(⟨⟨ e.type ⟩⟩, ⟨⟨ e.specification ⟩⟩, ⟨⟨ e.section ⟩⟩, ⟨⟨ e.initial ⟩⟩, ⟨⟨ e.triggered ⟩⟩, \"⟨⟨ e.interfaces ⟩⟩\")⟨% if forloop.last %⟩;⟨% else %⟩,⟨% endif %⟩",
  "⟨% endfor %⟩⟨% if elements.size == 0 %⟩    ;",
  "⟨% endif %⟩",
  "    private final int type;",
  "    private final String specification;",
  "    private final String section;",
  "    private final boolean initial;",
  "    private final boolean triggered;",
  "    private final String[] interfaces;",
  "",
  "    Gtp2InformationElements(final int type, final String specification, final String section,",
  "            final boolean initial, final boolean triggered, final String interfaces) ⟨",
  "        this.type = type;",
  "        this.specification = specification;",
  "        this.section = section;",
  "        this.initial = initial;",
  "        this.triggered = triggered;",
  "        this.interfaces = interfaces.isEmpty() ? new String[0] : interfaces.split(\",\");",
  "    ⟩",
  "",
  "    public int getType() ⟨",
  "        return type;",
  "    ⟩",
  "",
  "    public String getSpecification() ⟨",
  "        return specification;",
  "    ⟩",
  "",
  "    public String getSection() ⟨",
  "        return section;",
  "    ⟩",
  "",
  "    public boolean isInitial() ⟨",
  "        return initial;",
  "    ⟩",
  "",
  "    public boolean isTriggered() ⟨",
  "        return triggered;",
  "    ⟩",
  "",
  "    public String[] getInterfaces() ⟨",
  "        return interfaces.clone();",
  "    ⟩",
  "⟩"]

/-- A brace for an angle bracket, and any other character as it is. -/
def brace (c : Char) : Char := if c = '⟨' then '\x7b' else if c = '⟩' then '\x7d' else c

/-- The text of a template given by its lines; each ends in a line feed. -/
def ofLines (lines : List String) : Text :=
  lines.flatMap fun line => line.toList.map brace ++ ['\n']

end StockTemplate

/-- The template that a generator comes with. -/
def Generator.stockTemplate : Generator → Text
  | .referencePoints => StockTemplate.ofLines StockTemplate.referencePointLines
  | .informationElements => StockTemplate.ofLines StockTemplate.informationElementLines

end TableCodegen
