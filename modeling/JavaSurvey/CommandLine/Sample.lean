set_option autoImplicit false

namespace JavaSurvey.CommandLine

def sampleLines : List String :=
  ["",
   "package com.acme.demo;",
   "",
   "import java.util.*;",
   "",
   "public class UserService \x7b",
   "    private final UserRepository repo = new UserRepository();",
   "",
   "    public UserService() \x7b",
   "        System.out.println(\"UserService constructed\");",
   "    \x7d",
   "",
   "    public User addUser(String name) \x7b",
   "        repo.save(name);",
   "        String trimmed = StringUtils.trim(name);",
   "        return new User(trimmed);",
   "    \x7d",
   "",
   "    public void printAll() \x7b",
   "        List<String> all = repo.findAll();",
   "        for (String n : all) \x7b",
   "            System.out.println(n);",
   "        \x7d",
   "    \x7d",
   "",
   "    static class StringUtils \x7b",
   "        static String trim(String s) \x7b return s.trim(); \x7d",
   "    \x7d",
   "\x7d",
   "",
   "class UserRepository \x7b",
   "    List<String> store = new ArrayList<>();",
   "    public void save(String name) \x7b store.add(name); \x7d",
   "    public List<String> findAll() \x7b return store; \x7d",
   "\x7d",
   "",
   "class User \x7b",
   "    private final String name;",
   "    public User(String name) \x7b this.name = name; \x7d",
   "\x7d"]

def sample : String := String.join (sampleLines.map (· ++ "\n"))

def samplePath : String := "<sample>"

end JavaSurvey.CommandLine
