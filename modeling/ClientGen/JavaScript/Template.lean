import ClientGen.Text.Replace

/-!
# Templates of JavaScript clients

A JavaScript client is a module with a class for every resource, a package description and an
introduction for its users.
-/

namespace ClientGen.JavaScript

open Text (joinLines)

/-- The template of the module: the client class and a class for every resource. -/
def indexTemplate : String := joinLines [
  "\x7b% include \"header\" %\x7d",
  "",
  "'use strict'",
  "",
  "const DEFAULT_BASE_URI = \x7b\x7b base_uri|stringify \x7d\x7d",
  "",
  "const DEFAULT_BASE_URI_PARAMETERS = \x7b",
  "\x7b% for name, param in base_uri_parameters|items %\x7d",
  "  \x7b\x7b name|stringify \x7d\x7d: \x7b\x7b param.default|stringify \x7d\x7d,",
  "\x7b% endfor %\x7d",
  "\x7d",
  "",
  "function template (uri, params) \x7b",
  "  return uri.replace(/\\\x7b(\\d+)\\\x7d/g, (_, index) => " ++
    "encodeURIComponent(String(params[Number(index)])))",
  "\x7d",
  "",
  "function expand (uri, params) \x7b",
  "  return uri.replace(/\\\x7b([^\x7b\x7d]+)\\\x7d/g, (_, name) => " ++
    "encodeURIComponent(String(params[name])))",
  "\x7d",
  "",
  "\x7b% for resource in all_resources %\x7d",
  "class \x7b\x7b resource.id|pascal_case \x7d\x7d \x7b",
  "  constructor (client = this, path = '') \x7b",
  "    this._client = client",
  "    this._path = path",
  "\x7b% for key, child in resource.children|items %\x7d",
  "\x7b% if child.uri_parameters %\x7d",
  "    this[\x7b\x7b key|stringify \x7d\x7d] = (\x7b\x7b child|param_list \x7d\x7d) => " ++
    "new \x7b\x7b child.id|pascal_case \x7d\x7d(client, path + template(\x7b\x7b " ++
    "child.relative_uri|stringify \x7d\x7d, [\x7b\x7b child|param_list \x7d\x7d]))",
  "\x7b% else %\x7d",
  "    this[\x7b\x7b key|stringify \x7d\x7d] = new \x7b\x7b child.id|pascal_case " ++
    "\x7d\x7d(client, path + \x7b\x7b child.relative_uri|stringify \x7d\x7d)",
  "\x7b% endif %\x7d",
  "\x7b% endfor %\x7d",
  "  \x7d",
  "\x7b% for key, method in resource.methods|items %\x7d",
  "",
  "\x7b% include \"method\" %\x7d",
  "\x7b% endfor %\x7d",
  "\x7d",
  "",
  "\x7b% endfor %\x7d",
  "class Client extends \x7b\x7b resources.id|pascal_case \x7d\x7d \x7b",
  "  constructor (options = \x7b\x7d) \x7b",
  "    super()",
  "    this.options = \x7b",
  "      baseUri: options.baseUri || DEFAULT_BASE_URI,",
  "      baseUriParameters: \x7b ...DEFAULT_BASE_URI_PARAMETERS, " ++
    "...options.baseUriParameters \x7d,",
  "      headers: \x7b ...options.headers \x7d,",
  "      fetch: options.fetch || globalThis.fetch,",
  "\x7b% if options.auth and security_schemes %\x7d",
  "      accessToken: options.accessToken,",
  "\x7b% endif %\x7d",
  "    \x7d",
  "  \x7d",
  "",
  "  baseUri () \x7b",
  "    return expand(this.options.baseUri, " ++
    "this.options.baseUriParameters).replace(/\\/$/, '')",
  "  \x7d",
  "",
  "  async request (method, path, \x7b body, query, headers \x7d = \x7b\x7d) \x7b",
  "    const url = new URL(this.baseUri() + path)",
  "    for (const [name, value] of Object.entries(query || \x7b\x7d)) \x7b",
  "      if (value !== undefined && value !== null) url.searchParams.append(name, " ++
    "String(value))",
  "    \x7d",
  "",
  "    const init = \x7b method, headers: \x7b ...this.options.headers, ...headers \x7d " ++
    "\x7d",
  "\x7b% if options.auth and security_schemes %\x7d",
  "    if (this.options.accessToken) init.headers.Authorization = \x60Bearer " ++
    "$\x7bthis.options.accessToken\x7d\x60",
  "\x7b% endif %\x7d",
  "    if (body !== undefined) \x7b",
  "      init.headers['Content-Type'] = init.headers['Content-Type'] || " ++
    "'application/json'",
  "      init.body = typeof body === 'string' ? body : JSON.stringify(body)",
  "    \x7d",
  "",
  "    const response = await this.options.fetch(url, init)",
  "    if (!response.ok) \x7b",
  "      const error = new Error(\x60$\x7bmethod\x7d $\x7burl\x7d failed with " ++
    "$\x7bresponse.status\x7d\x60)",
  "      error.response = response",
  "      throw error",
  "    \x7d",
  "    return response",
  "  \x7d",
  "\x7d",
  "",
  "Client.supportedMethods = \x7b\x7b supported_methods|stringify \x7d\x7d",
  "",
  "module.exports = Client",
  "module.exports.Client = Client",
  ""]

/-- The template of the package description. -/
def packageTemplate : String := joinLines [
  "\x7b",
  "  \"name\": \x7b\x7b (options.name or (title|package_name))|stringify \x7d\x7d,",
  "  \"version\": \x7b\x7b options.package_version|stringify \x7d\x7d,",
  "  \"description\": \x7b\x7b (\"Client for \" ~ title)|stringify \x7d\x7d,",
  "  \"main\": \"index.js\",",
  "  \"license\": \x7b\x7b options.license|stringify \x7d\x7d,",
  "\x7b% if options.repository %\x7d",
  "  \"repository\": \x7b\x7b options.repository|stringify \x7d\x7d,",
  "\x7b% endif %\x7d",
  "  \"engines\": \x7b",
  "    \"node\": \">=18\"",
  "  \x7d",
  "\x7d",
  ""]

/-- The template of the introduction for users of the client. -/
def readmeTemplate : String := joinLines [
  "# \x7b\x7b title \x7d\x7d",
  "",
  "Generated client for \x7b\x7b title \x7d\x7d\x7b% if version %\x7d (\x7b\x7b version " ++
    "\x7d\x7d)\x7b% endif %\x7d.",
  "",
  "## Usage",
  "",
  "\x60\x60\x60js",
  "const \x7b Client \x7d = require(\x7b\x7b (options.name or " ++
    "(title|package_name))|stringify \x7d\x7d)",
  "",
  "const client = new Client(\x7b baseUri: \x7b\x7b base_uri|stringify \x7d\x7d \x7d)",
  "\x60\x60\x60",
  "\x7b% for doc in documentation %\x7d",
  "",
  "## \x7b\x7b doc.title \x7d\x7d",
  "",
  "\x7b\x7b doc.content \x7d\x7d",
  "\x7b% endfor %\x7d",
  "",
  "## Methods",
  "",
  "| Method | URI | Description |",
  "| --- | --- | --- |",
  "\x7b% for method in all_methods %\x7d",
  "| \x7b\x7b method.method|upper_case \x7d\x7d | \x60\x7b\x7b " ++
    "method.resource|display_uri \x7d\x7d\x60 | \x7b\x7b method.description|js_doc " ++
    "\x7d\x7d |",
  "\x7b% endfor %\x7d",
  ""]

/-- The fragment that starts the module. -/
def headerTemplate : String := joinLines [
  "// \x7b\x7b title \x7d\x7d\x7b% if version %\x7d \x7b\x7b version \x7d\x7d\x7b% endif " ++
    "%\x7d client, generated by apigen. Do not edit.",
  ""]

/-- The fragment for a method of a resource. -/
def methodTemplate : String := joinLines [
  "  /**",
  "   * \x7b\x7b method.method|upper_case \x7d\x7d \x7b\x7b resource|display_uri \x7d\x7d",
  "\x7b% if method.description %\x7d",
  "   *",
  "   * \x7b\x7b method.description|js_doc \x7d\x7d",
  "\x7b% endif %\x7d",
  "\x7b% if method.body is not none %\x7d",
  "   * @param \x7b*\x7d body",
  "\x7b% endif %\x7d",
  "   * @param \x7bobject\x7d [options]",
  "\x7b% for name, param in method.query_parameters|items %\x7d",
  "   * @param \x7b\x7b '\x7b' ~ js_type(param.type) ~ '\x7d' \x7d\x7d " ++
    "[options.query.\x7b\x7b name \x7d\x7d]\x7b% if param.description %\x7d \x7b\x7b " ++
    "param.description|js_doc \x7d\x7d\x7b% endif %\x7d",
  "",
  "\x7b% endfor %\x7d",
  "   * @returns \x7bPromise<Response>\x7d",
  "   */",
  "  [\x7b\x7b key|stringify \x7d\x7d] (\x7b% if method.body is not none %\x7dbody, " ++
    "\x7b% endif %\x7doptions = \x7b\x7d) \x7b",
  "    return this._client.request(\x7b\x7b method.method|upper_case|stringify \x7d\x7d, " ++
    "this._path, \x7b% if method.body is not none %\x7d\x7b ...options, body \x7d\x7b% " ++
    "else %\x7doptions\x7b% endif %\x7d)",
  "  \x7d",
  "",
  ""]

end ClientGen.JavaScript
