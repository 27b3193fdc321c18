/-!
# Kinds of syntax nodes

The vocabulary of the syntax tree of a Java file: the kinds of its nodes, and the roles in which a
child stands in its parent.

## Main definitions

* `Kind`, `Kind.name` — the kinds of the nodes that have a name of their own.
* `Role`, `Role.label` — the roles of children.
-/

namespace RpcBindings.Source

/-- The kinds of named syntax nodes. -/
inductive Kind
  | program | lineComment | blockComment | identifier | typeIdentifier | decimalIntegerLiteral
  | hexIntegerLiteral | octalIntegerLiteral | binaryIntegerLiteral | decimalFloatingPointLiteral
  | hexFloatingPointLiteral | trueLiteral | falseLiteral | characterLiteral | stringLiteral
  | nullLiteral | stringFragment | multilineStringFragment | escapeSequence | thisReference
  | superReference | underscorePattern | asterisk | castExpression | assignmentExpression
  | binaryExpression | instanceofExpression | lambdaExpression | inferredParameters
  | ternaryExpression | unaryExpression | updateExpression | classLiteral
  | parenthesizedExpression | objectCreationExpression | arrayCreationExpression | dimensionsExpr
  | fieldAccess | arrayAccess | methodInvocation | argumentList | methodReference
  | templateExpression | typeArguments | wildcard | dimensions | switchExpression | switchBlock
  | switchBlockStatementGroup | switchRule | switchLabel | patternNode | typePattern
  | recordPattern | recordPatternBody | recordPatternComponent | guard | block
  | expressionStatement | labeledStatement | assertStatement | doStatement | breakStatement
  | continueStatement | returnStatement | yieldStatement | synchronizedStatement | throwStatement
  | tryStatement | catchClause | catchFormalParameter | catchType | finallyClause
  | tryWithResourcesStatement | resourceSpecification | resource | ifStatement | whileStatement
  | forStatement | enhancedForStatement | bareAnnotated | fullAnnotated | annotationArgumentList
  | elementValuePair | elementValueArrayInitializer | packageDeclaration | importDeclaration
  | scopedIdentifier | enumDeclaration | enumBody | enumBodyDeclarations | enumConstant
  | classDeclaration | permits | modifiers | typeParameters | typeParameter | typeBound
  | superclass | superInterfaces | typeList | classBody | staticInitializer
  | constructorDeclaration | constructorBody | explicitConstructorInvocation | fieldDeclaration
  | recordDeclaration | annotationTypeDeclaration | annotationTypeBody
  | annotationTypeElementDeclaration | interfaceDeclaration | extendsInterfaces | interfaceBody
  | constantDeclaration | variableDeclarator | arrayInitializer | annotatedType
  | scopedTypeIdentifier | genericType | arrayType | integralType | floatingPointType
  | booleanType | voidType | formalParameters | formalParameter | receiverParameter
  | spreadParameter | throwsClause | localVariableDeclaration | methodDeclaration
  | compactConstructorDeclaration
  deriving DecidableEq, Repr

namespace Kind

/-- The name of a kind in an outline of the tree. -/
def name : Kind → String
  | .program => "program"
  | .lineComment => "line_comment"
  | .blockComment => "block_comment"
  | .identifier => "identifier"
  | .typeIdentifier => "type_identifier"
  | .decimalIntegerLiteral => "decimal_integer_literal"
  | .hexIntegerLiteral => "hex_integer_literal"
  | .octalIntegerLiteral => "octal_integer_literal"
  | .binaryIntegerLiteral => "binary_integer_literal"
  | .decimalFloatingPointLiteral => "decimal_floating_point_literal"
  | .hexFloatingPointLiteral => "hex_floating_point_literal"
  | .trueLiteral => "true"
  | .falseLiteral => "false"
  | .characterLiteral => "character_literal"
  | .stringLiteral => "string_literal"
  | .nullLiteral => "null_literal"
  | .stringFragment => "string_fragment"
  | .multilineStringFragment => "multiline_string_fragment"
  | .escapeSequence => "escape_sequence"
  | .thisReference => "this"
  | .superReference => "super"
  | .underscorePattern => "underscore_pattern"
  | .asterisk => "asterisk"
  | .castExpression => "cast_expression"
  | .assignmentExpression => "assignment_expression"
  | .binaryExpression => "binary_expression"
  | .instanceofExpression => "instanceof_expression"
  | .lambdaExpression => "lambda_expression"
  | .inferredParameters => "inferred_parameters"
  | .ternaryExpression => "ternary_expression"
  | .unaryExpression => "unary_expression"
  | .updateExpression => "update_expression"
  | .classLiteral => "class_literal"
  | .parenthesizedExpression => "parenthesized_expression"
  | .objectCreationExpression => "object_creation_expression"
  | .arrayCreationExpression => "array_creation_expression"
  | .dimensionsExpr => "dimensions_expr"
  | .fieldAccess => "field_access"
  | .arrayAccess => "array_access"
  | .methodInvocation => "method_invocation"
  | .argumentList => "argument_list"
  | .methodReference => "method_reference"
  | .templateExpression => "template_expression"
  | .typeArguments => "type_arguments"
  | .wildcard => "wildcard"
  | .dimensions => "dimensions"
  | .switchExpression => "switch_expression"
  | .switchBlock => "switch_block"
  | .switchBlockStatementGroup => "switch_block_statement_group"
  | .switchRule => "switch_rule"
  | .switchLabel => "switch_label"
  | .patternNode => "pattern"
  | .typePattern => "type_pattern"
  | .recordPattern => "record_pattern"
  | .recordPatternBody => "record_pattern_body"
  | .recordPatternComponent => "record_pattern_component"
  | .guard => "guard"
  | .block => "block"
  | .expressionStatement => "expression_statement"
  | .labeledStatement => "labeled_statement"
  | .assertStatement => "assert_statement"
  | .doStatement => "do_statement"
  | .breakStatement => "break_statement"
  | .continueStatement => "continue_statement"
  | .returnStatement => "return_statement"
  | .yieldStatement => "yield_statement"
  | .synchronizedStatement => "synchronized_statement"
  | .throwStatement => "throw_statement"
  | .tryStatement => "try_statement"
  | .catchClause => "catch_clause"
  | .catchFormalParameter => "catch_formal_parameter"
  | .catchType => "catch_type"
  | .finallyClause => "finally_clause"
  | .tryWithResourcesStatement => "try_with_resources_statement"
  | .resourceSpecification => "resource_specification"
  | .resource => "resource"
  | .ifStatement => "if_statement"
  | .whileStatement => "while_statement"
  | .forStatement => "for_statement"
  | .enhancedForStatement => "enhanced_for_statement"
  | .bareAnnotated => "marker_annotation"
  | .fullAnnotated => "annotation"
  | .annotationArgumentList => "annotation_argument_list"
  | .elementValuePair => "element_value_pair"
  | .elementValueArrayInitializer => "element_value_array_initializer"
  | .packageDeclaration => "package_declaration"
  | .importDeclaration => "import_declaration"
  | .scopedIdentifier => "scoped_identifier"
  | .enumDeclaration => "enum_declaration"
  | .enumBody => "enum_body"
  | .enumBodyDeclarations => "enum_body_declarations"
  | .enumConstant => "enum_constant"
  | .classDeclaration => "class_declaration"
  | .permits => "permits"
  | .modifiers => "modifiers"
  | .typeParameters => "type_parameters"
  | .typeParameter => "type_parameter"
  | .typeBound => "type_bound"
  | .superclass => "superclass"
  | .superInterfaces => "super_interfaces"
  | .typeList => "type_list"
  | .classBody => "class_body"
  | .staticInitializer => "static_initializer"
  | .constructorDeclaration => "constructor_declaration"
  | .constructorBody => "constructor_body"
  | .explicitConstructorInvocation => "explicit_constructor_invocation"
  | .fieldDeclaration => "field_declaration"
  | .recordDeclaration => "record_declaration"
  | .annotationTypeDeclaration => "annotation_type_declaration"
  | .annotationTypeBody => "annotation_type_body"
  | .annotationTypeElementDeclaration => "annotation_type_element_declaration"
  | .interfaceDeclaration => "interface_declaration"
  | .extendsInterfaces => "extends_interfaces"
  | .interfaceBody => "interface_body"
  | .constantDeclaration => "constant_declaration"
  | .variableDeclarator => "variable_declarator"
  | .arrayInitializer => "array_initializer"
  | .annotatedType => "annotated_type"
  | .scopedTypeIdentifier => "scoped_type_identifier"
  | .genericType => "generic_type"
  | .arrayType => "array_type"
  | .integralType => "integral_type"
  | .floatingPointType => "floating_point_type"
  | .booleanType => "boolean_type"
  | .voidType => "void_type"
  | .formalParameters => "formal_parameters"
  | .formalParameter => "formal_parameter"
  | .receiverParameter => "receiver_parameter"
  | .spreadParameter => "spread_parameter"
  | .throwsClause => "throws"
  | .localVariableDeclaration => "local_variable_declaration"
  | .methodDeclaration => "method_declaration"
  | .compactConstructorDeclaration => "compact_constructor_declaration"

/-- Comments may stand anywhere in the tree. -/
def isComment (k : Kind) : Bool :=
  k == .lineComment || k == .blockComment

end Kind

/-- The roles of children in their parent. -/
inductive Role
  | name | body | interfaces | parameters | arguments | object | operator | left | right
  | declarator | value | typeOf | dimensions | element | scope | fieldName | array | index
  | condition | consequence | alternative | typeParameters | superclass | permits | constructor
  | key | pattern | typeArguments | initial | update | resources | operand | templateProcessor
  | templateArgument
  deriving DecidableEq, Repr

/-- The name of a role in an outline of the tree. -/
def Role.label : Role → String
  | .name => "name"
  | .body => "body"
  | .interfaces => "interfaces"
  | .parameters => "parameters"
  | .arguments => "arguments"
  | .object => "object"
  | .operator => "operator"
  | .left => "left"
  | .right => "right"
  | .declarator => "declarator"
  | .value => "value"
  | .typeOf => "type"
  | .dimensions => "dimensions"
  | .element => "element"
  | .scope => "scope"
  | .fieldName => "field"
  | .array => "array"
  | .index => "index"
  | .condition => "condition"
  | .consequence => "consequence"
  | .alternative => "alternative"
  | .typeParameters => "type_parameters"
  | .superclass => "superclass"
  | .permits => "permits"
  | .constructor => "constructor"
  | .key => "key"
  | .pattern => "pattern"
  | .typeArguments => "type_arguments"
  | .initial => "init"
  | .update => "update"
  | .resources => "resources"
  | .operand => "operand"
  | .templateProcessor => "template_processor"
  | .templateArgument => "template_argument"

end RpcBindings.Source
